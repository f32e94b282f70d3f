import ContactSearch.Calendar.Date
import ContactSearch.Calendar.Timestamp
import ContactSearch.Calendar.Written
import ContactSearch.Cap
import ContactSearch.Category
import ContactSearch.Classifier.Answer
import ContactSearch.Classifier.Reading
import ContactSearch.Contact
import ContactSearch.Deal.Basic
import ContactSearch.Deal.People
import ContactSearch.Filter.Apply
import ContactSearch.Filter.Basic
import ContactSearch.Filter.Check
import ContactSearch.Intent
import ContactSearch.Json.Octets
import ContactSearch.Json.Reader
import ContactSearch.Json.Value
import ContactSearch.Json.Writer
import ContactSearch.KeyedList
import ContactSearch.Match.Basic
import ContactSearch.Match.FreeText
import ContactSearch.Match.Intent
import ContactSearch.Number.Binary64
import ContactSearch.Number.Format
import ContactSearch.Number.Shortest
import ContactSearch.Prompt.Basic
import ContactSearch.Prompt.Example
import ContactSearch.Prompt.Wording
import ContactSearch.Proofs.Calendar.Bounds
import ContactSearch.Proofs.Calendar.Days
import ContactSearch.Proofs.Calendar.Order
import ContactSearch.Proofs.Calendar.Written
import ContactSearch.Proofs.Classifier.Payloads
import ContactSearch.Proofs.Deal.FirstSeen
import ContactSearch.Proofs.Deal.Identity
import ContactSearch.Proofs.Deal.People
import ContactSearch.Proofs.Filter.Activity
import ContactSearch.Proofs.Filter.Conjunction
import ContactSearch.Proofs.Filter.Deals
import ContactSearch.Proofs.Filter.Merge
import ContactSearch.Proofs.Filter.RecencyLimit
import ContactSearch.Proofs.Filter.Sectors
import ContactSearch.Proofs.Filter.SharedScores
import ContactSearch.Proofs.Json.Encodings
import ContactSearch.Proofs.Json.Nesting
import ContactSearch.Proofs.Json.Numeral
import ContactSearch.Proofs.Json.Readable
import ContactSearch.Proofs.Json.RoundTrip
import ContactSearch.Proofs.Json.Strings
import ContactSearch.Proofs.KeyedList
import ContactSearch.Proofs.Match.FreeText
import ContactSearch.Proofs.Match.Score
import ContactSearch.Proofs.Match.SourceNames
import ContactSearch.Proofs.Number.Decimal
import ContactSearch.Proofs.Number.Digits
import ContactSearch.Proofs.Number.Rounding
import ContactSearch.Proofs.Number.Value
import ContactSearch.Proofs.Prompt.Sources
import ContactSearch.Proofs.Query.AsciiCase
import ContactSearch.Proofs.Query.Claims
import ContactSearch.Proofs.Query.Companies
import ContactSearch.Proofs.Query.CompanyWords
import ContactSearch.Proofs.Query.Fillers
import ContactSearch.Proofs.Query.Keywords
import ContactSearch.Proofs.Query.LastingWords
import ContactSearch.Proofs.Query.LongerKeywords
import ContactSearch.Proofs.Query.Shape
import ContactSearch.Proofs.Query.SourceList
import ContactSearch.Proofs.Query.Spans
import ContactSearch.Proofs.Query.StandingNames
import ContactSearch.Proofs.Query.Stripping
import ContactSearch.Proofs.Ranking
import ContactSearch.Proofs.Recency
import ContactSearch.Proofs.Recency.Ages
import ContactSearch.Proofs.Recency.Moments
import ContactSearch.Proofs.Registry.Acceptance
import ContactSearch.Proofs.Registry.Filing
import ContactSearch.Proofs.Registry.Overwriting
import ContactSearch.Proofs.Registry.Reading
import ContactSearch.Proofs.Registry.Run
import ContactSearch.Proofs.Registry.Stored
import ContactSearch.Proofs.Search.Additive
import ContactSearch.Proofs.Search.AsciiCase
import ContactSearch.Proofs.Search.ColdContacts
import ContactSearch.Proofs.Search.Failure
import ContactSearch.Proofs.Search.Itemized
import ContactSearch.Proofs.Search.Success
import ContactSearch.Proofs.Service.Companies
import ContactSearch.Proofs.Service.Filter
import ContactSearch.Proofs.Service.Request
import ContactSearch.Proofs.Service.Search
import ContactSearch.Proofs.Service.Sources
import ContactSearch.Proofs.Source
import ContactSearch.Proofs.Source.Spellings
import ContactSearch.Proofs.Store.AllOrNothing
import ContactSearch.Proofs.Store.Refinement
import ContactSearch.Proofs.Store.Replacement
import ContactSearch.Proofs.Store.Run
import ContactSearch.Proofs.Store.Usable
import ContactSearch.Proofs.Text.AsciiCase
import ContactSearch.Proofs.Text.Blanks
import ContactSearch.Proofs.Text.CaseFold
import ContactSearch.Proofs.Text.Encodings
import ContactSearch.Proofs.Text.Joined
import ContactSearch.Proofs.Text.Keyword
import ContactSearch.Proofs.Text.LowerCase
import ContactSearch.Proofs.Text.Numeral
import ContactSearch.Proofs.Text.Occurrence
import ContactSearch.Proofs.Text.Pieces
import ContactSearch.Proofs.Text.Removal
import ContactSearch.Proofs.Text.Span
import ContactSearch.Proofs.Text.Unit
import ContactSearch.Proofs.Text.Utf8
import ContactSearch.Proofs.Text.Words
import ContactSearch.Proofs.Traversal
import ContactSearch.Proofs.Wire.Acceptance
import ContactSearch.Proofs.Wire.FieldNames
import ContactSearch.Proofs.Wire.Integer
import ContactSearch.Proofs.Wire.Locations
import ContactSearch.Proofs.Wire.Models
import ContactSearch.Proofs.Wire.ReadBack
import ContactSearch.Proofs.Wire.Record
import ContactSearch.Proofs.Wire.Respelling
import ContactSearch.Query.Extraction
import ContactSearch.Query.Keywords
import ContactSearch.Query.Parsed
import ContactSearch.Recency
import ContactSearch.Registry
import ContactSearch.Result
import ContactSearch.Search
import ContactSearch.Service.Basic
import ContactSearch.Service.Response
import ContactSearch.Settings
import ContactSearch.Source
import ContactSearch.Store.Basic
import ContactSearch.Store.Folder
import ContactSearch.Text.Blank
import ContactSearch.Text.Case
import ContactSearch.Text.CaseTable
import ContactSearch.Text.Digit
import ContactSearch.Text.Encoding
import ContactSearch.Text.Find
import ContactSearch.Text.Newline
import ContactSearch.Text.Numeral
import ContactSearch.Text.Pattern
import ContactSearch.Text.Ranges
import ContactSearch.Text.Split
import ContactSearch.Text.Unit
import ContactSearch.Text.Word
import ContactSearch.Text.WordTable
import ContactSearch.Warmth
import ContactSearch.Wire.Contact
import ContactSearch.Wire.Filter
import ContactSearch.Wire.Integer
import ContactSearch.Wire.Issue
import ContactSearch.Wire.Leaf
import ContactSearch.Wire.Message
import ContactSearch.Wire.Model
import ContactSearch.Wire.Query
import ContactSearch.Wire.Schema
import ContactSearch.Wire.Single
import ContactSearch.Wire.Source
