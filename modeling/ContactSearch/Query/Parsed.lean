import ContactSearch.Query.Extraction

/-!
# Parsed queries

A query is read by the steps of `ContactSearch.Query.Extraction` in a fixed order: owner, time,
warmth, source, company, role. What they leave is the free text, which also stands as an intent
on names.
-/

namespace ContactSearch

/-- A query with the intents found in it, in the order they were found, and the free text left. -/
structure ParsedQuery where
  raw : String
  freeText : String
  intents : List Intent
deriving Repr, DecidableEq

namespace Query

open Text

/-- One step of reading a query. -/
abbrev Step := List Char → Option Finding

/-- The steps for a query in lower case, known organizations and sources. -/
def steps (lowered : List Char) (orgs : List String) (sources : List Source) : List Step :=
  [extractOwner, extractTime lowered, extractWarmth, extractSource sources, extractCompany orgs,
   extractRole]

/-- Runs steps one after another, each on what the one before left. -/
def runSteps : List Step → List Char → List Intent × List Char
  | [], text => ([], text)
  | step :: more, text =>
    match step text with
    | some found =>
      let (intents, rest) := runSteps more found.rest
      (found.intent :: intents, rest)
    | none => runSteps more text

/-- The intent for free text. -/
def nameIntent (freeText : String) : Intent :=
  ⟨.name, freeText, "Name contains: \"" ++ freeText ++ "\""⟩

/-- Reads a query, given the organizations and the sources to recognize. -/
def parse (query : String) (orgs : List String) (sources : List Source) : ParsedQuery :=
  let text := trim query.toList
  let (intents, rest) := runSteps (steps (lower text) orgs sources) text
  let freeText := String.ofList (stripFillers rest)
  ⟨query, freeText, intents ++ if freeText.isEmpty then [] else [nameIntent freeText]⟩

end Query

end ContactSearch
