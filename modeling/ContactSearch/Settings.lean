import ContactSearch.Text.Case
import ContactSearch.Wire.Single

/-!
# Settings

The settings of the service, read from variables of the environment. Names of variables are
compared in lower case, and of several that agree the last one counts.
-/

namespace ContactSearch

open Wire

/-- The settings of the service. -/
structure Settings where
  host : String
  port : Int
  debug : Bool
  logLevel : String
  customSourcesPath : String
  customSourcesKey : String
  maxKnownOrgs : Int
  maxDealDetails : Int
deriving Repr, DecidableEq

namespace Settings

/-- The settings when no variable is set. -/
def standard : Settings where
  host := "0.0.0.0"
  port := 8000
  debug := false
  logLevel := "info"
  customSourcesPath := ".smart_search/custom_sources.json"
  customSourcesKey := "arrow-crm-custom-sources"
  maxKnownOrgs := 100
  maxDealDetails := 5

/-- Settings as data. -/
def schema : Schema Settings :=
  .record <| Fields.nil mk
    |>.withDefault "host" "host" .text standard.host host
    |>.withDefault "port" "port" .integer standard.port port
    |>.withDefault "debug" "debug" .truth standard.debug debug
    |>.withDefault "log_level" "log_level" .text standard.logLevel logLevel
    |>.withDefault "custom_sources_path" "custom_sources_path" .text standard.customSourcesPath
      customSourcesPath
    |>.withDefault "custom_sources_key" "custom_sources_key" .text standard.customSourcesKey
      customSourcesKey
    |>.withDefault "max_known_orgs" "max_known_orgs" .integer standard.maxKnownOrgs maxKnownOrgs
    |>.withDefault "max_deal_details" "max_deal_details" .integer standard.maxDealDetails
      maxDealDetails

/-- The settings that an environment gives. -/
def ofEnvironment (environment : List (String × String)) : Checked Settings :=
  schema.read <| .object <| KeyedList.ofPairs <|
    environment.map fun (name, value) => (String.ofList name.lowered, .text value)

end Settings

end ContactSearch
