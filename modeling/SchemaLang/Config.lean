import SchemaLang.Output.Naming
import SchemaLang.Toml.Document

/-!
# Configuration

A configuration is a TOML document. It may set the table naming policy and a path for the document
of the schema; whatever else it holds is passed over. A record may also be written as the list of
its values.
-/

namespace SchemaLang

/-- The settings of a build. -/
structure Config where
  naming : TableNaming := {}
  /-- Where a build also writes the document of the schema. -/
  documentPath : Option String := none
  deriving DecidableEq, Repr

namespace Toml

/-- The values of a record in the order of its keys; those that are not written are missing. -/
def asRecord? (keys : List String) : Toml → Option (List (Option Toml))
  | inline members | table _ members => some (keys.map (members.lookup ·))
  | array elements => some (positions elements)
  | tables elements => some (positions (elements.map (table .header)))
  | dateTime _ => some (keys.map fun _ => none)
  | _ => none
where
  /-- The values in the places of the keys. -/
  positions (elements : List Toml) : List (Option Toml) :=
    (elements.map some ++ keys.map fun _ => none).take keys.length

/-- A text. -/
def asText? : Toml → Option String
  | string text => some text
  | _ => none

/-- Nothing is under a key that stands for itself. -/
def isVoid : Toml → Bool
  | inline [] | table _ [] | array [] | tables [] => true
  | _ => false

/-- The thing of that name out of a list: a text, or a table with that one key and nothing under it.
    -/
def asName? {α : Type} (name : α → String) (all : List α) : Toml → Option α
  | string text => all.find? (name · == text)
  | inline [(text, v)] | table _ [(text, v)] =>
    if v.isVoid then all.find? (name · == text) else none
  | _ => none

end Toml

open Toml in
/-- The policy that a value describes. -/
def TableNaming.ofToml? (v : Toml) : Option TableNaming := do
  let [letterCase, leading, trailing] ← v.asRecord? ["format", "prefix", "suffix"] | none
  let text (v : Option Toml) : Option String :=
    match v with
    | some v => v.asText?
    | none => some ""
  some
    { letterCase := ← match letterCase with
        | some v => v.asName? LetterCase.name LetterCase.all
        | none => some .lower
      leading := ← text leading
      trailing := ← text trailing }

namespace Config

/-- The path for the document of the schema, out of the settings for output. -/
def documentPathOf? (v : Toml) : Option (Option String) := do
  let [path] ← v.asRecord? ["ir"] | none
  match path with
  | some v => v.asText?.map some
  | none => some none

/-- The configuration in the table of a document. -/
def ofMembers? (members : Toml.Members) : Option Config := do
  some
    { naming := ← match members.lookup "naming" with
        | some v => TableNaming.ofToml? v
        | none => some {}
      documentPath := ← match members.lookup "output" with
        | some v => documentPathOf? v
        | none => some none }

/-- The configuration that a document describes. -/
def ofDocument? (s : String) : Option Config := do
  ofMembers? (← Toml.ofDocument? s)

end Config

end SchemaLang
