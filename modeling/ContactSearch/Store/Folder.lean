import ContactSearch.KeyedList
import ContactSearch.Text.Encoding

/-!
# Folders

The place on disk where a store keeps its file: a folder that may not be there yet, or whose name
a file may have taken. A file is replaced by writing a temporary one beside it and moving that into
its place, which fails when a folder has the name. Then the temporary file is removed.
-/

namespace ContactSearch

open Text

/-- What a folder holds under a name. -/
inductive Entry where
  | file (content : Octets)
  | folder
deriving Repr, DecidableEq

/-- A place for a folder. -/
inductive Place where
  | vacant
  /-- A file has the name of the folder. -/
  | taken
  | folder (entries : KeyedList String Entry)
deriving Repr, DecidableEq

/-- Why a file is not replaced. -/
inductive ReplaceError where
  | placeTaken
  | nameIsFolder
deriving Repr, DecidableEq

namespace Place

/-- The names in a folder, if there is one. -/
def names? : Place → Option (List String)
  | folder entries => some entries.keys
  | _ => none

/-- The content of a file, if there is one of that name. -/
def content? (name : String) : Place → Option Octets
  | folder entries =>
    match entries.get? name with
    | some (.file content) => some content
    | _ => none
  | _ => none

/-- The folder of a place, made if the place is vacant. -/
def entered : Place → Except ReplaceError (KeyedList String Entry)
  | vacant => .ok []
  | taken => .error .placeTaken
  | folder entries => .ok entries

/-- A name that none of these names is. -/
def freshName (names : List String) : String :=
  String.join names ++ ".tmp"

/-- Entries without the one of a name. -/
def without (name : String) (entries : KeyedList String Entry) : KeyedList String Entry :=
  entries.filter fun (n, _) => n != name

/-- Moves a file over another name, unless a folder has that name. -/
def move (source target : String) (content : Octets) (entries : KeyedList String Entry) :
    Except ReplaceError (KeyedList String Entry) :=
  match entries.get? target with
  | some .folder => .error .nameIsFolder
  | _ => .ok ((without source entries).set target (.file content))

/-- Gives a file a new content by way of a temporary file, and tells what the place is then. -/
def replace (name : String) (content : Octets) (place : Place) :
    Except ReplaceError Unit × Place :=
  match place.entered with
  | .error e => (.error e, place)
  | .ok entries =>
    let temporary := freshName entries.keys
    let entries := entries.set temporary (.file content)
    match move temporary name content entries with
    | .ok entries => (.ok (), folder entries)
    | .error e => (.error e, folder (without temporary entries))

end Place

end ContactSearch
