import SchemaLang.Source.Item
import SchemaLang.Source.Line

/-!
# Table blocks

The significant lines of a source read as statements: a table begins, a field or an index is
declared, a brace closes. A table owns the declarations between its start and the next table or
closing brace; those that no table owns are dropped. A line may hold several statements.
-/

namespace SchemaLang

/-- The declaration of a field. -/
structure FieldLine where
  line : Nat
  name : List Char
  type : List Char
  attributes : Option (List Char)
  deriving DecidableEq, Repr

/-- The declaration of an index. -/
structure IndexLine where
  line : Nat
  name : List Char
  columns : List (List Char)
  deriving DecidableEq, Repr

/-- A table and what it declares. -/
structure TableBlock where
  name : List Char
  line : Nat
  fields : List FieldLine
  indices : List IndexLine
  deriving DecidableEq, Repr

/-- What a line can say. -/
inductive Statement where
  | table (line : Nat) (name : List Char)
  | field (declaration : FieldLine)
  | index (declaration : IndexLine)
  | close
  deriving DecidableEq, Repr

namespace Statement

/-- The word that declares an index in place of a field name. -/
def indexKeyword : List Char := "index".toList

/-- The statement made by a name, a type and the group behind them. An index without a group
    declares nothing. -/
def declare (line : Nat) (name type : List Char) (group : Option (List Char)) : List Statement :=
  if name = indexKeyword then
    match group with
    | some columns => [index { line, name := type, columns := items ',' columns }]
    | none => []
  else
    [field { line, name, type, attributes := group }]

/-- The statements in the tokens of a line. Groups and words that belong to no declaration are
    passed over. -/
def ofTokens (line : Nat) : List Token → List Statement
  | [] => []
  | .closing :: rest => close :: ofTokens line rest
  | .word name :: .word type :: .group inner :: rest =>
    declare line name type (some inner) ++ ofTokens line rest
  | .word name :: .word type :: rest => declare line name type none ++ ofTokens line rest
  | _ :: rest => ofTokens line rest

/-- The statements of a line. A table without a name says nothing. -/
def ofLine (line : SourceLine) : List Statement :=
  if Token.startsTable line.tokens then
    match Token.tableName? line.tokens with
    | some name => table line.number name :: ofTokens line.number (line.tokens.drop 2)
    | none => []
  else
    ofTokens line.number line.tokens

/-- The statements of a source. -/
def ofSource (source : String) : List Statement :=
  (significantLines source).flatMap ofLine

/-- Neither a table nor a closing brace. -/
def isDeclaration : Statement → Bool
  | table .. | close => false
  | field _ | index _ => true

/-- The field that is declared. -/
def field? : Statement → Option FieldLine
  | field declaration => some declaration
  | _ => none

/-- The index that is declared. -/
def index? : Statement → Option IndexLine
  | index declaration => some declaration
  | _ => none

end Statement

namespace TableBlock

/-- The table that starts here, with the declarations at the front of what follows. -/
def ofDeclarations (line : Nat) (name : List Char) (statements : List Statement) : TableBlock :=
  let owned := statements.takeWhile Statement.isDeclaration
  { name, line, fields := owned.filterMap Statement.field?,
    indices := owned.filterMap Statement.index? }

/-- The tables in a row of statements. -/
def ofStatements : List Statement → List TableBlock
  | [] => []
  | .table line name :: rest => ofDeclarations line name rest :: ofStatements rest
  | _ :: rest => ofStatements rest

/-- The tables of a source. -/
def ofSource (source : String) : List TableBlock :=
  ofStatements (Statement.ofSource source)

end TableBlock

end SchemaLang
