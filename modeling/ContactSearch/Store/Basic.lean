import ContactSearch.Json.Octets
import ContactSearch.Json.Writer
import ContactSearch.Store.Folder
import ContactSearch.Text.Newline

/-!
# Stores

A store keeps texts under keys. It lives in memory or in one file that holds a JSON object; a file
that cannot be read counts as an empty object, and entries that are not texts are kept, though
they are never given out. A store without an implementation refuses everything.

What is read here is read however deeply it is nested. A reader with some room breaks down on a file
that overflows it, and then nothing is given out or set.
-/

namespace ContactSearch

open Text

/-- Why a store refuses. -/
inductive StoreError where
  | unimplemented
  | notReplaced (e : ReplaceError)
deriving Repr, DecidableEq

/-- A store that is one file in a folder. -/
structure FileStore where
  name : String
  place : Place
deriving Repr, DecidableEq

namespace FileStore

/-- The object in a file, empty if the octets hold none. -/
def entriesOf (content : Octets) : KeyedList String Json :=
  match Encoding.strictUtf8? content with
  | none => []
  | some s =>
    match Json.read s with
    | .ok v => v.fields
    | .error _ => []

/-- The octets of a file with an object. -/
def contentOf (entries : KeyedList String Json) : Octets :=
  Encoding.utf8.encode (Json.write (.object entries))

/-- The object that a store holds. -/
def entries (s : FileStore) : KeyedList String Json :=
  (s.place.content? s.name).elim [] entriesOf

/-- The text under a key. -/
def get (s : FileStore) (key : String) : Option String :=
  (s.entries.get? key).bind Json.text?

/-- Sets the text under a key. -/
def set (s : FileStore) (key value : String) : Except ReplaceError Unit × FileStore :=
  let (result, place) := s.place.replace s.name (contentOf (s.entries.set key (.text value)))
  (result, { s with place })

/-- The text of the file, if there is a file, or nothing for octets that are no text. -/
def text? (s : FileStore) : Option (Option (List Char)) :=
  (s.place.content? s.name).map fun content =>
    (Encoding.strictUtf8? content).map unifyNewlines

/-- The array or object in the file that a reader has no room for, if there is one. -/
def overflow? (room : Option Nat) (s : FileStore) : Option Json.Compound :=
  ((s.place.content? s.name).bind Encoding.strictUtf8?).bind (Json.overflow? room)

/-- The text of the file is torn. -/
def isTorn (s : FileStore) : Bool :=
  ((s.place.content? s.name).bind Encoding.strictUtf8?).any Json.isTorn

end FileStore

/-- A store of texts under keys. -/
inductive Store where
  | memory (entries : KeyedList String String)
  | file (s : FileStore)
  | unimplemented
deriving Repr, DecidableEq

namespace Store

/-- The text under a key. -/
def get (key : String) : Store → Except StoreError (Option String)
  | memory entries => .ok (entries.get? key)
  | file s => .ok (s.get key)
  | unimplemented => .error .unimplemented

/-- Sets the text under a key, and tells what the store is then. -/
def set (key value : String) : Store → Except StoreError Unit × Store
  | memory entries => (.ok (), memory (entries.set key value))
  | file s =>
    let (result, s) := s.set key value
    (result.mapError .notReplaced, file s)
  | unimplemented => (.error .unimplemented, unimplemented)

/-- What a reader has no room for when the store is asked for a text. -/
def overflow? (room : Option Nat) : Store → Option Json.Compound
  | file s => s.overflow? room
  | _ => none

/-- What the store reads is torn. -/
def isTorn : Store → Bool
  | file s => s.isTorn
  | _ => false

end Store

end ContactSearch
