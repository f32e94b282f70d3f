import ContactSearch.Classifier.Answer
import ContactSearch.Wire.Single

/-!
# Filters and answers of the classifier in data
-/

namespace ContactSearch

open Wire

/-- Filters in data. -/
def Filters.schema : Schema Filters :=
  .record <| Fields.nil Filters.mk
    |>.maybe "name" "name" .text Filters.name
    |>.maybe "company" "company" .text Filters.company
    |>.maybe "title" "title" .text Filters.title
    |>.maybe "source" "source" .text Filters.source
    |>.maybe "warmth" "warmth" (.list .integer) Filters.warmth
    |>.maybe "location" "location" .text Filters.location
    |>.maybe "added_within_days" "addedWithinDays" .integer Filters.addedWithinDays
    |>.maybe "email" "email" .text Filters.email
    |>.maybe "tags" "tags" (.list .text) Filters.tags
    |>.maybe "org_kind" "orgKind" (.list .text) Filters.orgKind
    |>.maybe "org_sector" "orgSector" .text Filters.orgSector
    |>.maybe "deal_name" "dealName" .text Filters.dealName
    |>.maybe "deal_sector" "dealSector" .text Filters.dealSector
    |>.maybe "deal_status" "dealStatus" (.list .text) Filters.dealStatus

/-- Sectors in data. -/
def Sectors.schema : Schema Sectors :=
  .record <| Fields.nil Sectors.mk
    |>.maybe "sector" "sector" .text Sectors.sector
    |>.maybe "sub_sector" "subSector" .text Sectors.subSector

/-- Labels for intents in data. -/
def Chip.schema : Schema Chip :=
  .record <| Fields.nil Chip.mk
    |>.required "type" "type" .text Chip.kind
    |>.required "label" "label" .text Chip.label

/-- Answers of the classifier in data. -/
def ClassifierAnswer.schema : Schema ClassifierAnswer :=
  .record <| Fields.nil ClassifierAnswer.mk
    |>.required "filters" "filters" Filters.schema ClassifierAnswer.filters
    |>.withDefault "explanation" "explanation" .text "" ClassifierAnswer.explanation
    |>.withDefault "intents" "intents" (.list Chip.schema) [] ClassifierAnswer.chips
    |>.maybe "matched_person_ids" "matchedPersonIds" (.list .integer) ClassifierAnswer.matchedIds
    |>.maybe "org_sector_map" "orgSectorMap" (.table Sectors.schema) ClassifierAnswer.sectors

/-- The data beside the filters, in data. -/
def FilterContext.schema : Schema FilterContext :=
  .record <| Fields.nil FilterContext.mk
    |>.maybe "matched_ids" "matchedIds" (.list .integer) FilterContext.matchedIds
    |>.maybe "org_sector_map" "orgSectorMap" (.table Sectors.schema) FilterContext.sectors
    |>.withDefault "intents" "intents" (.list Chip.schema) [] FilterContext.chips

end ContactSearch
