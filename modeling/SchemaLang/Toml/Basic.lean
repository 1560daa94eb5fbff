/-!
# TOML documents

A document is a table of values under keys. Tables come about in three ways, and the way decides
what may still be added: a table with a header of its own is complete once its header is past, one
that a longer header mentions may still get a header, and one that a dotted key mentions may be
extended by dotted keys and by longer headers.
-/

namespace SchemaLang

/-- How a table came about. -/
inductive TableOrigin where
  /-- By a header of its own. -/
  | header
  /-- As part of a longer header. -/
  | longerHeader
  /-- As part of a dotted key. -/
  | dottedKey
  deriving DecidableEq, Repr

/-- A value of a document. -/
inductive Toml where
  | string (text : String)
  | integer (value : Int)
  | float (text : String)
  | boolean (value : Bool)
  | dateTime (text : String)
  | array (elements : List Toml)
  /-- A table in braces, which is complete as it stands. -/
  | inline (members : List (String × Toml))
  | table (origin : TableOrigin) (members : List (String × Toml))
  /-- The tables under a repeated header. -/
  | tables (elements : List (List (String × Toml)))

namespace Toml

/-- The members of a table. Keys are distinct. -/
abbrev Members := List (String × Toml)

/-- Sets the value of a key, at the end if the key is new. -/
def setMember (members : Members) (key : String) (value : Toml) : Members :=
  if (members.lookup key).isSome then
    members.map fun (k, v) => if k == key then (k, value) else (k, v)
  else members ++ [(key, value)]

/-- Adds a value under a key that must be new. -/
def addMember? (members : Members) (key : String) (value : Toml) : Option Members :=
  if (members.lookup key).isSome then none else some (members ++ [(key, value)])

/-- Adds a value under a dotted key below a table. `path` holds the tables on the way; they come
    about by this key or an earlier dotted one, but those above the last may also be parts of
    headers. -/
def addDotted? (members : Members) (key : String) (value : Toml) :
    List String → Option Members
  | [] => addMember? members key value
  | step :: path =>
    match members.lookup step with
    | none => do
      some (setMember members step (table .dottedKey (← addDotted? [] key value path)))
    | some (table origin inner) =>
      if origin = .header ∨ (path = [] ∧ origin ≠ .dottedKey) then none
      else do some (setMember members step (table origin (← addDotted? inner key value path)))
    | some (tables elements) =>
      match elements.reverse, path with
      | last :: before, _ :: _ => do
        let last ← addDotted? last key value path
        some (setMember members step (tables (last :: before).reverse))
      | _, _ => none
    | some _ => none

/-- Puts a table under a header. `path` holds the tables on the way, of repeated ones the last
    counts; `place` says what becomes of the entry under the last key of the header. -/
def underHeader? (members : Members) (key : String) (place : Option Toml → Option Toml) :
    List String → Option Members
  | [] => do some (setMember members key (← place (members.lookup key)))
  | step :: path =>
    match members.lookup step with
    | none => do
      some (setMember members step (table .longerHeader (← underHeader? [] key place path)))
    | some (table origin inner) => do
      some (setMember members step (table origin (← underHeader? inner key place path)))
    | some (tables elements) =>
      match elements.reverse with
      | last :: before => do
        let last ← underHeader? last key place path
        some (setMember members step (tables (last :: before).reverse))
      | [] => none
    | some _ => none

/-- A key with its value. The last part of a dotted key stands apart. -/
structure Assignment where
  path : List String
  key : String
  value : Toml

/-- Adds the values of some keys to a table. -/
def addAll? (members : Members) (assignments : List Assignment) : Option Members :=
  assignments.foldlM (fun members a => addDotted? members a.key a.value a.path) members

/-- A header and the keys behind it. -/
structure Section where
  path : List String
  key : String
  /-- The header adds a table to a list of them. -/
  isRepeated : Bool
  assignments : List Assignment

/-- What a section makes of the entry under its header. -/
def Section.place? (s : Section) (entry : Option Toml) : Option Toml :=
  if s.isRepeated then
    match entry with
    | none => do some (tables [← addAll? [] s.assignments])
    | some (tables elements) => do some (tables (elements ++ [← addAll? [] s.assignments]))
    | some _ => none
  else
    match entry with
    | none => do some (table .header (← addAll? [] s.assignments))
    | some (table .longerHeader inner) => do
      some (table .header (← addAll? inner s.assignments))
    | some _ => none

/-- The table of a document: the keys before the first header, and the sections. -/
def ofSections? (first : List Assignment) (sections : List Section) : Option Members := do
  sections.foldlM (fun members s => underHeader? members s.key s.place? s.path)
    (← addAll? [] first)

end Toml

end SchemaLang
