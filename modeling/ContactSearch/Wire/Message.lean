import ContactSearch.Wire.Contact
import ContactSearch.Wire.Query
import ContactSearch.Wire.Source

/-!
# Messages

What clients send to the service and what it sends back.
-/

namespace ContactSearch

open Wire

/-- A query to be run over contacts. Without known organizations those of the contacts are used. -/
structure QueryRequest where
  query : String
  contacts : List Contact
  knownOrgs : Option (List String)

/-- An answer of the classifier, not read yet, to be applied to contacts. -/
structure FilterRequest where
  classifier : KeyedList String Json
  contacts : List Contact

/-- How a query was read and what it found. -/
structure QueryResponse where
  queryId : String
  parsed : ParsedQuery
  results : List SearchResult
  latencyMs : Option Int

/-- What the filters of a classifier found. -/
structure FilterResponse where
  queryId : String
  explanation : String
  results : List SearchResult
  latencyMs : Option Int

/-- All sources, and whether one was added. -/
structure SourceListing where
  added : Option Bool
  sources : List Source

/-- Requests for a query in data. -/
def QueryRequest.schema : Schema QueryRequest :=
  .record <| Fields.nil QueryRequest.mk
    |>.required "query" "query" .text QueryRequest.query
    |>.withDefault "records" "records" (.list Contact.schema) [] QueryRequest.contacts
    |>.maybe "known_orgs" "knownOrgs" (.list .text) QueryRequest.knownOrgs

/-- Requests for filters in data. -/
def FilterRequest.schema : Schema FilterRequest :=
  .record <| Fields.nil FilterRequest.mk
    |>.required "classifier" "classifier" .anyObject FilterRequest.classifier
    |>.withDefault "records" "records" (.list Contact.schema) [] FilterRequest.contacts

/-- Responses to a query in data. -/
def QueryResponse.schema : Schema QueryResponse :=
  .record <| Fields.nil QueryResponse.mk
    |>.required "query_id" "queryId" .text QueryResponse.queryId
    |>.required "parsed" "parsed" ParsedQuery.schema QueryResponse.parsed
    |>.withDefault "results" "results" (.list SearchResult.schema) [] QueryResponse.results
    |>.maybe "latency_ms" "latencyMs" .integer QueryResponse.latencyMs

/-- Responses to filters in data. -/
def FilterResponse.schema : Schema FilterResponse :=
  .record <| Fields.nil FilterResponse.mk
    |>.required "query_id" "queryId" .text FilterResponse.queryId
    |>.withDefault "explanation" "explanation" .text "" FilterResponse.explanation
    |>.withDefault "results" "results" (.list SearchResult.schema) [] FilterResponse.results
    |>.maybe "latency_ms" "latencyMs" .integer FilterResponse.latencyMs

/-- Listings of sources in data. -/
def SourceListing.schema : Schema SourceListing :=
  .record <| Fields.nil SourceListing.mk
    |>.maybe "added" "added" .truth SourceListing.added
    |>.withDefault "sources" "sources" (.list Source.schema) [] SourceListing.sources

end ContactSearch
