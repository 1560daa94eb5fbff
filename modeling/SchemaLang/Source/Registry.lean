import SchemaLang.Schema.Identifier
import SchemaLang.Source.Line
import SchemaLang.Text.Case

/-!
# The registry of tables

Every table of a source, in the order of the sources, with the identifier that its place and name
give it. A name may be declared twice; both keep their place, and look-ups find the first.
-/

namespace SchemaLang

/-- A declared table. -/
structure TableEntry where
  /-- The place among the tables of the source, from one. -/
  seq : Nat
  name : String
  id : String
  line : Nat
  deriving DecidableEq, Repr

/-- The tables of a source in declaration order. -/
structure Registry where
  entries : List TableEntry
  deriving DecidableEq, Repr

/-- The name of the table that a line starts. -/
def SourceLine.tableName? (line : SourceLine) : Option String :=
  (Token.tableName? line.tokens).map String.ofList

/-- The lines that start a table, with the name of the table. -/
def tableHeaders (source : String) : List (String × Nat) :=
  (significantLines source).filterMap fun line => line.tableName?.map (·, line.number)

namespace Registry

/-- The tables that a source declares. -/
def ofSource (source : String) : Registry where
  entries := (tableHeaders source).zipIdx 1 |>.map fun ((name, line), seq) =>
    { seq, name, id := canonicalId seq name, line }

/-- The identifier of the table with a declared name: the first of exactly that name, else the first
    of that name up to the case of ASCII letters. -/
def resolve? (r : Registry) (name : String) : Option String :=
  ((r.entries.find? (·.name == name)).or
    (r.entries.find? fun e => Text.sameAsciiLetters e.name name)).map (·.id)

/-- The identifier that equals a text up to the case of ASCII letters. -/
def byTable? (r : Registry) (table : String) : Option String :=
  (r.entries.find? fun e => Text.sameAsciiLetters e.id table).map (·.id)

end Registry

end SchemaLang
