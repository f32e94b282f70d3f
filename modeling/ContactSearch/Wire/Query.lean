import ContactSearch.Query.Parsed
import ContactSearch.Result
import ContactSearch.Wire.Single

/-!
# Queries and results in data
-/

namespace ContactSearch

open Wire

/-- Intents in data. -/
def Intent.schema : Schema Intent :=
  .record <| Fields.nil Intent.mk
    |>.required "type" "type" .intentKind Intent.kind
    |>.required "value" "value" .text Intent.value
    |>.required "label" "label" .text Intent.label

/-- Parsed queries in data. -/
def ParsedQuery.schema : Schema ParsedQuery :=
  .record <| Fields.nil ParsedQuery.mk
    |>.required "raw" "raw" .text ParsedQuery.raw
    |>.withDefault "free_text" "freeText" .text "" ParsedQuery.freeText
    |>.withDefault "intents" "intents" (.list Intent.schema) [] ParsedQuery.intents

/-- Matches in data. -/
def Match.schema : Schema Match :=
  .record <| Fields.nil Match.mk
    |>.required "score" "score" .integer Match.score
    |>.required "explanation" "explanation" .text Match.reason

/-- Results in data. -/
def SearchResult.schema : Schema SearchResult :=
  .record <| Fields.nil SearchResult.mk
    |>.required "record_id" "recordId" .integer SearchResult.contactId
    |>.required "score" "score" .integer SearchResult.score
    |>.withDefault "explanations" "explanations" (.list .text) [] SearchResult.reasons
    |>.withDefault "matched_intents" "matchedIntents" (.list Intent.schema) []
      SearchResult.intents

end ContactSearch
