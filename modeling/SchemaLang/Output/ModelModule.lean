import SchemaLang.Output.Input
import SchemaLang.Output.Literal
import SchemaLang.Output.Naming

/-!
# Model modules

Every model becomes a module with one class: its table, indices, columns and relationships. The
module is put together as a value, in which each line is a record of what it says, and then written.
A package module imports all classes.
-/

namespace SchemaLang

/-- An argument of a column behind its type. -/
inductive ColumnOption where
  | foreignKey (table column : String)
  | primaryKey
  | autoIncrement
  | notNull
  | unique
  | default (expression : String)
  deriving DecidableEq, Repr

/-- The line of a column. -/
structure ColumnLine where
  name : String
  type : String
  options : List ColumnOption
  deriving DecidableEq, Repr

/-- The line of a relationship. Columns of other classes are given with their class. -/
structure RelationLine where
  name : String
  target : String
  backPopulates : String
  foreignKeys : Option (List (String × String))
  /-- The rows of the other side are fetched on demand. -/
  isDynamic : Bool
  /-- The column at the far end of a relationship of a class with itself. -/
  remoteSide : Option (String × String)
  deriving DecidableEq, Repr

/-- The line of an index. -/
structure IndexLiteral where
  name : String
  columns : List String
  deriving DecidableEq, Repr

/-- A module with the class of a model. -/
structure ModelModule where
  className : String
  table : String
  indices : List IndexLiteral
  columns : List ColumnLine
  relations : List RelationLine
  /-- The name and the key that stand for a row. -/
  title : String
  key : String
  deriving DecidableEq, Repr

/-- The name of an index in a module. A name that belongs to the table of the model follows the
    table to its name in the module; another one is put under that name unless it mentions it. -/
def emittedIndexName (id table name : String) : String :=
  let scope := "ix_" ++ Text.lower id ++ "_"
  let lowered := Text.lowerChars name.toList
  -- The scope is cut off by its size, which may differ from that of the same letters in upper case.
  let own? :=
    if scope.toList.isPrefixOf lowered then Text.dropBytes? scope.utf8ByteSize name.toList else none
  match own? with
  | some rest => "ix_" ++ table ++ "_" ++ String.ofList rest
  | none =>
    if Text.occursIn (Text.lowerChars table.toList) lowered then name
    else "ix_" ++ table ++ "_" ++ name

namespace ColumnLine

/-- The type of a column. -/
def typeOf (f : Field) : String :=
  let number (n : UInt32) := Text.decimal n.toNat
  match f.type with
  | .integer => "db.Integer"
  | .string => "db.String(" ++ number (f.size.length.getD 255) ++ ")"
  | .text => "db.Text"
  | .dateTime => "db.DateTime"
  | .date => "db.Date"
  | .time => "db.Time"
  | .float => "db.Float"
  | .boolean => "db.Boolean"
  | .decimal =>
    match f.size.precision, f.size.scale with
    | none, none => "db.Numeric"
    | some p, none => "db.Numeric(precision=" ++ number p ++ ")"
    | p, s =>
      "db.Numeric(precision=" ++ number (p.getD 10) ++ ", scale=" ++ number (s.getD 0) ++ ")"

/-- The reference of a foreign key column. -/
def referenceOf (s : Schema) (naming : TableNaming) (f : Field) :
    Except OutputFault (List ColumnOption) :=
  match f.foreignKey with
  | none => .ok []
  | some key =>
    match s.resolveForeignKey? f with
    | some (target, column) => .ok [.foreignKey (naming.tableOf target.id) column.name]
    | none => .error (.unresolvedColumn f.name key)

/-- The arguments of a column besides its type and reference. A primary key is not null anyway. -/
def flagsOf (f : Field) : List ColumnOption :=
  (if f.primaryKey then [.primaryKey] else []) ++
    (if f.autoIncrement then [.autoIncrement] else []) ++
    (if !f.nullable && !f.primaryKey then [.notNull] else []) ++
    (if f.unique then [.unique] else []) ++
    (match f.defaultLiteral with
      | some literal => [.default (Literal.ofDefault f.type literal)]
      | none => [])

/-- The line of a field. -/
def ofField (s : Schema) (naming : TableNaming) (f : Field) : Except OutputFault ColumnLine := do
  let reference ← referenceOf s naming f
  return { name := f.name, type := typeOf f, options := reference ++ flagsOf f }

end ColumnLine

namespace RelationLine

/-- The model that holds the key of a relationship of `m`. -/
def holder (m : Model) (r : Relationship) : String :=
  match r.cardinality with
  | .manyToOne => m.id
  | .oneToMany => r.target

/-- The line of a relationship. -/
def ofRelationship (m : Model) (r : Relationship) : Except OutputFault RelationLine := do
  let remoteSide ←
    if r.cardinality = .manyToOne ∧ r.target = m.id then
      match m.primaryKey? with
      | some key => Except.ok (some (m.id, key.name))
      | none => .error (OutputFault.noSelfKey r.name)
    else .ok none
  return {
    name := r.name
    target := r.target
    backPopulates := r.backPopulates
    foreignKeys := r.foreignKeys.map fun keys => keys.map (holder m r, ·)
    isDynamic := r.cardinality = .oneToMany
    remoteSide }

end RelationLine

namespace ModelModule

/-- The module of a model. -/
def ofModel (s : Schema) (naming : TableNaming) (m : Model) : Except OutputFault ModelModule := do
  let table := naming.tableOf m.id
  let columns ← m.fields.mapM (ColumnLine.ofField s naming)
  let relations ← m.relationships.mapM (RelationLine.ofRelationship m)
  return {
    className := m.id
    table
    indices := m.indices.map fun ix =>
      { name := emittedIndexName m.id table ix.name, columns := ix.columns }
    columns
    relations
    title := m.name
    key := (m.primaryKey?.map (·.name)).getD "id" }

end ModelModule

/-! ## Writing -/

/-- An argument of a column. -/
def ColumnOption.render : ColumnOption → String
  | foreignKey table column => "db.ForeignKey(" ++ Literal.quote (table ++ "." ++ column) ++ ")"
  | primaryKey => "primary_key=True"
  | autoIncrement => "autoincrement=True"
  | notNull => "nullable=False"
  | unique => "unique=True"
  | default expression => "default=" ++ expression

/-- The line of a column. -/
def ColumnLine.render (c : ColumnLine) : String :=
  "    " ++ c.name ++ " = db.Column(" ++
    ", ".intercalate (c.type :: c.options.map ColumnOption.render) ++ ")"

/-- Columns with their classes, as a list literal inside a string. -/
def columnList (columns : List (String × String)) : String :=
  Literal.quote
    ("[" ++ ", ".intercalate (columns.map fun (owner, column) => owner ++ "." ++ column) ++ "]")

/-- The arguments of a relationship. -/
def RelationLine.arguments (r : RelationLine) : List String :=
  [Literal.quote r.target, "back_populates=" ++ Literal.quote r.backPopulates] ++
    (match r.foreignKeys with
      | some keys => ["foreign_keys=" ++ columnList keys]
      | none => []) ++
    (if r.isDynamic then ["lazy='dynamic'"] else []) ++
    (match r.remoteSide with
      | some column => ["remote_side=" ++ columnList [column]]
      | none => [])

/-- The line of a relationship. -/
def RelationLine.render (r : RelationLine) : String :=
  "    " ++ r.name ++ " = db.relationship(" ++ ", ".intercalate r.arguments ++ ")"

/-- The line of an index. -/
def IndexLiteral.render (ix : IndexLiteral) : String :=
  "        Index(" ++ Literal.quote ix.name ++ ", " ++
    ", ".intercalate (ix.columns.map Literal.quote) ++ "),"

namespace ModelModule

/-- The lines of the module. -/
def lines (m : ModelModule) : List String :=
  [generatedNotice, "from app import db"] ++
    (if m.indices.isEmpty then [] else ["from sqlalchemy import Index"]) ++
    ["", "", "class " ++ m.className ++ "(db.Model):",
      "    __tablename__ = " ++ Literal.quote m.table] ++
    (if m.indices.isEmpty then []
      else ["    __table_args__ = ("] ++ m.indices.map IndexLiteral.render ++ ["    )"]) ++
    [""] ++ m.columns.map ColumnLine.render ++
    (if m.relations.isEmpty then [] else "" :: m.relations.map RelationLine.render) ++
    ["", "    def __repr__(self):",
      "        return f'<" ++ m.title ++ " \x7bself." ++ m.key ++ "\x7d>'"]

/-- The path of the module of a table. -/
def pathOf (table : String) : String := table ++ ".py"

/-- The generated file. -/
def file (m : ModelModule) : OutputFile :=
  { path := pathOf m.table, content := unlines m.lines }

end ModelModule

/-- The package module of the models: it imports each class from the module of its table. -/
structure ModelPackage where
  /-- Tables and classes. -/
  classes : List (String × String)
  deriving DecidableEq, Repr

namespace ModelPackage

/-- The package of a schema. -/
def ofSchema (s : Schema) (naming : TableNaming) : ModelPackage where
  classes := s.models.map fun m => (naming.tableOf m.id, m.id)

/-- The lines of the package module. -/
def lines (p : ModelPackage) : List String :=
  [generatedNotice] ++
    (p.classes.map fun (table, className) =>
      "from " ++ modelsPackage ++ "." ++ table ++ " import " ++ className) ++
    ["", "__all__ = ["] ++
    (p.classes.map fun (_, className) => "    " ++ Literal.quote className ++ ",") ++ ["]"]

/-- The generated file. -/
def file (p : ModelPackage) : OutputFile :=
  { path := packageFile, content := unlines p.lines }

end ModelPackage

end SchemaLang
