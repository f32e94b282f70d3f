import ContactSearch.Category
import ContactSearch.Classifier.Reading
import ContactSearch.Registry
import ContactSearch.Search
import ContactSearch.Service.Response
import ContactSearch.Wire.Message

/-!
# The service

Requests are answered one after another; only adding a source changes the registry. A path may end
in slashes, and what follows a question mark is ignored.

The room that is left for nested values is the same for all readers. A body that overflows it cannot
be decoded; a file of sources that does breaks what needs the sources. Where a torn text is to be
told, in an answer or in what is said of a body, the answer breaks.
-/

namespace ContactSearch

open Calendar Wire

/-- A request. -/
structure Request where
  method : String
  path : String
  body : Text.Octets

/-- When and how a request is answered: what the clock shows, the name given to the answer, the
time it takes, and whether faults are told. -/
structure Occasion where
  now : Timestamp
  queryId : String
  latencyMs : Int
  debug : Bool

/-- What clients can do. -/
inductive Route where
  | health
  | search
  | filter
  | listSources
  | addSource
  | listCategories
deriving Repr, DecidableEq

namespace Route

/-- The paths with the methods that they take. -/
def table : List (String × List (String × Route)) :=
  [("/health", [("GET", health)]),
   ("/v1/search/smart", [("POST", search)]),
   ("/v1/search/filters", [("POST", filter)]),
   ("/v1/sources", [("GET", listSources), ("POST", addSource)]),
   ("/v1/sources/categories", [("GET", listCategories)])]

/-- A path without what follows a question mark and without slashes at its end. -/
def bare (path : String) : String :=
  String.ofList (((path.toList.takeWhile (· != '?')).reverse.dropWhile (· == '/')).reverse)

/-- The route of a request, or the answer that there is none. -/
def find (r : Request) : Except Response Route :=
  match table.lookup (bare r.path) with
  | none => .error .notFound
  | some methods =>
    match methods.lookup r.method with
    | none => .error .methodNotAllowed
    | some route => .ok route

end Route

/-- Why the body of a request is refused. -/
inductive Refusal where
  | empty
  | notJson
  | undecodable
  | misfit (issues : List Issue)

/-- Reads the body of a request, with some room. -/
def Request.read {α : Type} (room : Option Nat) (s : Schema α) (r : Request) : Except Refusal α :=
  if r.body.isEmpty then .error .empty
  else match Json.readOctetsWithin room r.body with
    | .error (.unreadable .malformed) => .error .notJson
    | .error _ => .error .undecodable
    | .ok v => (s.read v).mapError .misfit

/-- The body of a request is torn. -/
def Request.isTorn (r : Request) : Bool :=
  Json.areTorn r.body

/-- The answer to a body that is refused. What does not fit is told with what was given for it, and
only finite numbers and, where the body is torn, whole texts can be told. -/
def Refusal.answer (torn : Bool) : Refusal → Except Fault Response
  | empty => .ok .noBody
  | notJson => .ok .notJson
  | undecodable => .ok .undecodable
  | misfit issues =>
    if issues.any fun i => !i.given.isFinite then .error .unwritable
    else if torn && issues.any fun i => i.given.tellsStandIn then .error .unencodable
    else .ok (.misfit issues)

namespace Service

/-- The version that the service tells. -/
def version : String := "1.0.0"

/-- The service is up. -/
def health : Response :=
  .ok (.object [("status", .text "healthy"), ("service", .text "smart-search"),
    ("version", .text version)])

/-- The distinct organizations of contacts in the order they are first seen. -/
def orgsOf (contacts : List Contact) : List String :=
  (KeyedList.ofPairs ((contacts.filterMap fun c => nonEmpty? c.org).map fun org => (org, ()))).keys

/-- The organizations that a query is read with. -/
def knownOrgs (q : QueryRequest) : List String :=
  q.knownOrgs.getD (orgsOf q.contacts)

/-- What breaks down where the registry cannot be read. -/
def faultOf : Registry.ReadFault → Fault
  | .store e => .store e
  | .tooDeep c => .tooDeep c

/-- What is made of a query where these sources can be found, and the contacts that it finds. -/
def findings (o : Occasion) (sources : List Source) (q : QueryRequest) :
    Except RecencyError (ParsedQuery × List SearchResult) := do
  let parsed := Query.parse q.query (knownOrgs q) sources
  return (parsed, ← Search.run o.now parsed q.contacts)

/-- Runs a query. -/
def search (room : Option Nat) (o : Occasion) (r : Registry) (q : QueryRequest) :
    Except Fault Response := do
  if (Text.trim q.query.toList).isEmpty then return .noQuery
  let sources ← (r.sourcesWithin room).mapError faultOf
  let (parsed, results) ← (findings o sources q).mapError .recency
  return .ok (QueryResponse.schema.write ⟨o.queryId, parsed, results, some o.latencyMs⟩)

/-- Applies an answer of the classifier. -/
def filter (o : Occasion) (f : FilterRequest) : Except Fault Response := do
  match ClassifierAnswer.ofJson (.object f.classifier) with
  | .error e => return .badGateway e.message
  | .ok answer =>
    let results ← (answer.apply o.now f.contacts).mapError .recency
    return .ok (FilterResponse.schema.write
      ⟨o.queryId, answer.explanation, results, some o.latencyMs⟩)

/-- Lists all sources. -/
def listSources (room : Option Nat) (added : Option Bool) (r : Registry) :
    Except Fault Response := do
  return .ok (SourceListing.schema.write ⟨added, ← (r.sourcesWithin room).mapError faultOf⟩)

/-- Adds a source and lists all sources. -/
def addSource (room : Option Nat) (r : Registry) (s : Source) :
    Except Fault Response × Registry :=
  match r.overflow? room with
  | some c => (.error (.tooDeep c), r)
  | none =>
    match r.add s with
    | (.error e, r) => (.error (.store e), r)
    | (.ok added, r) => (listSources room (some added) r, r)

/-- Lists the categories. -/
def listCategories : Response :=
  .ok (.array (Category.all.map fun c => CategoryDisplay.schema.write c.display))

/-- The answer, or that something broke; an answer from torn data breaks where it tells of it. -/
def settle (o : Occasion) (torn : Bool) : Except Fault Response → Response
  | .ok response =>
    if torn && response.body.tellsStandIn then .broken o.debug .unencodable else response
  | .error fault => .broken o.debug fault

/-- Answers a request along a route, and tells what the registry is then. -/
def follow (room : Option Nat) (o : Occasion) (r : Registry) (request : Request) :
    Route → Response × Registry
  | .health => (health, r)
  | .listCategories => (listCategories, r)
  | .listSources => (settle o r.isTorn (listSources room none r), r)
  | .search =>
    match request.read room QueryRequest.schema with
    | .error refusal => (settle o false (refusal.answer request.isTorn), r)
    | .ok q => (settle o request.isTorn (search room o r q), r)
  | .filter =>
    match request.read room FilterRequest.schema with
    | .error refusal => (settle o false (refusal.answer request.isTorn), r)
    | .ok f => (settle o request.isTorn (filter o f), r)
  | .addSource =>
    match request.read room Source.schema with
    | .error refusal => (settle o false (refusal.answer request.isTorn), r)
    | .ok s =>
      -- A torn name is refused, and what is said of it cannot be told.
      if request.isTorn && s.namesStandIn then (.broken o.debug .unencodable, r)
      else
        let (result, updated) := addSource room r s
        (settle o (request.isTorn || r.isTorn) result, updated)

/-- Answers a request with room for so many values in one another, and tells what the registry is
then. -/
def handleWithin (room : Option Nat) (o : Occasion) (r : Registry) (request : Request) :
    Response × Registry :=
  match Route.find request with
  | .error response => (response, r)
  | .ok route => follow room o r request route

/-- Answers a request with the usual room. -/
def handle (o : Occasion) (r : Registry) (request : Request) : Response × Registry :=
  handleWithin Json.usualRoom o r request

end Service

end ContactSearch
