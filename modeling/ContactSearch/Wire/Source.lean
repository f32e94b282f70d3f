import ContactSearch.Source
import ContactSearch.Wire.Single

/-!
# Sources and categories in data
-/

namespace ContactSearch

open Wire

/-- Sources in data. -/
def Source.schema : Schema Source :=
  .record <| Fields.nil Source.mk
    |>.required "name" "name" .nonEmptyText Source.name
    |>.required "category" "category" .category Source.category
    |>.maybe "description" "description" .text Source.description

/-- Displays of categories in data. -/
def CategoryDisplay.schema : Schema CategoryDisplay :=
  .record <| Fields.nil CategoryDisplay.mk
    |>.required "value" "value" .category CategoryDisplay.category
    |>.required "label" "label" .text CategoryDisplay.label
    |>.required "color" "color" .text CategoryDisplay.color
    |>.required "badge_style" "badge_style" .text CategoryDisplay.badgeStyle

end ContactSearch
