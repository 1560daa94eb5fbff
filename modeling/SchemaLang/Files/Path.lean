import SchemaLang.Text.Cut

/-!
# Paths

A path is a text of names with slashes between them. One that starts with a slash starts at the
root, any other one in the working directory. An empty name and the name `.` say nothing, but for a
`.` at the start of a path.
-/

namespace SchemaLang.Path

/-- The path starts at the root. -/
def isAbsolute (path : String) : Bool := path.toList.head? == some '/'

/-- The names of a path, in order. -/
def names (path : String) : List String := (Text.splitAt '/' path.toList).map String.ofList

/-- The path inside a directory. An absolute path is nowhere but where it says. -/
def join (directory path : String) : String :=
  if isAbsolute path then path
  else if directory.isEmpty || directory.toList.getLast? == some '/' then directory ++ path
  else directory ++ "/" ++ path

/-- What a path starts with before its first name. -/
inductive Start where
  | root
  | here
  | nowhere
  deriving DecidableEq, Repr

/-- The text of the start. -/
def Start.text : Start → List Char
  | root => ['/']
  | here => ['.']
  | nowhere => []

/-- A path taken apart: its start and the stretches between the slashes behind it, last one first.
    -/
structure Parts where
  start : Start
  reversed : List (List Char)
  deriving DecidableEq, Repr

namespace Parts

/-- The parts of a path. -/
def ofPath (path : String) : Parts :=
  match path.toList with
  | '/' :: rest => ⟨.root, (Text.splitAt '/' rest).reverse⟩
  | ['.'] => ⟨.here, []⟩
  | '.' :: '/' :: rest => ⟨.here, (Text.splitAt '/' ('/' :: rest)).reverse⟩
  | s => ⟨.nowhere, (Text.splitAt '/' s).reverse⟩

/-- The stretch says nothing. -/
def isVoid (name : List Char) : Bool := name == [] || name == ['.']

/-- The path of the parts, without the void stretches at its end. -/
def text (start : Start) (reversed : List (List Char)) : String :=
  String.ofList (start.text ++ ['/'].intercalate (reversed.dropWhile isVoid).reverse)

/-- The paths above, nearest first. Above a path of one name is its start, above a lone `.` the path
    that says nothing, above the root nothing. -/
def above (start : Start) : List (List Char) → List String
  | [] => if start = .here then [""] else []
  | name :: rest => if isVoid name then above start rest else text start rest :: above start rest

end Parts

/-- The paths above a path, nearest first. -/
def ancestors (path : String) : List String :=
  let parts := Parts.ofPath path
  Parts.above parts.start parts.reversed

/-- The path above. -/
def parent? (path : String) : Option String := (ancestors path).head?

end SchemaLang.Path
