import ContactSearch.Wire.Filter
import ContactSearch.Wire.Message

/-!
# Models

All kinds of objects that are read and written as data.
-/

namespace ContactSearch.Wire

/-- A kind of object in data. -/
inductive Model where
  | contact
  | deal
  | organization
  | intent
  | query
  | matching
  | result
  | source
  | newSource
  | category
  | filters
  | sectors
  | chip
  | answer
  | context
  | queryRequest
  | filterRequest
  | queryResponse
  | filterResponse
  | sourceListing
deriving Repr, DecidableEq

namespace Model

/-- The type that objects of a kind are read as. -/
abbrev Carrier : Model → Type
  | contact => Contact
  | deal => Deal
  | organization => Organization
  | intent => Intent
  | query => ParsedQuery
  | matching => Match
  | result => SearchResult
  | source => Source
  | newSource => Source
  | category => CategoryDisplay
  | filters => Filters
  | sectors => Sectors
  | chip => Chip
  | answer => ClassifierAnswer
  | context => FilterContext
  | queryRequest => QueryRequest
  | filterRequest => FilterRequest
  | queryResponse => QueryResponse
  | filterResponse => FilterResponse
  | sourceListing => SourceListing

/-- How objects of a kind stand in data. -/
def schema : (m : Model) → Schema m.Carrier
  | contact => Contact.schema
  | deal => Deal.schema
  | organization => Organization.schema
  | intent => Intent.schema
  | query => ParsedQuery.schema
  | matching => Match.schema
  | result => SearchResult.schema
  | source => Source.schema
  | newSource => Source.schema
  | category => CategoryDisplay.schema
  | filters => Filters.schema
  | sectors => Sectors.schema
  | chip => Chip.schema
  | answer => ClassifierAnswer.schema
  | context => FilterContext.schema
  | queryRequest => QueryRequest.schema
  | filterRequest => FilterRequest.schema
  | queryResponse => QueryResponse.schema
  | filterResponse => FilterResponse.schema
  | sourceListing => SourceListing.schema

end Model

end ContactSearch.Wire
