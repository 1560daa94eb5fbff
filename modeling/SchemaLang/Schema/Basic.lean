import SchemaLang.Schema.Dictionary

/-!
# Schemas

What a schema holds: models with their columns, relationships, indices and menus, and the menus of
the whole. Lists keep declaration order and may repeat a name; only review tells whether they do.
-/

namespace SchemaLang

/-- The type of a column. -/
inductive FieldType where
  | integer
  | string
  | text
  | dateTime
  | date
  | time
  | float
  | decimal
  | boolean
  deriving DecidableEq, Repr

/-- The size of a column: a length in characters, or a number of digits and of decimals. -/
structure Size where
  length : Option UInt32 := none
  precision : Option UInt32 := none
  scale : Option UInt32 := none
  deriving DecidableEq, Repr

/-- A column of a model. -/
structure Field where
  name : String
  type : FieldType
  size : Size := {}
  primaryKey : Bool := false
  autoIncrement : Bool := false
  nullable : Bool := true
  unique : Bool := false
  /-- The referenced column, as `table.column`. -/
  foreignKey : Option String := none
  /-- The default value, as the source spells it. -/
  defaultLiteral : Option String := none
  deriving DecidableEq, Repr

/-- How many rows stand on the other side of a relationship. -/
inductive Cardinality where
  | oneToMany
  | manyToOne
  deriving DecidableEq, Repr

/-- Where a relationship comes from. -/
inductive Origin where
  /-- An association of the source. -/
  | explicit
  /-- A column that references another table. -/
  | foreignKey
  /-- The other side of a reference that no association describes. -/
  | inverse
  deriving DecidableEq, Repr

/-- One side of a relationship, as the model that holds it sees it. -/
structure Relationship where
  name : String
  /-- The identifier of the model on the other side. -/
  target : String
  cardinality : Cardinality
  /-- The name of the other side. -/
  backPopulates : String
  /-- The referencing columns, where one target alone does not tell which they are. They are
      columns of the model with the foreign key. -/
  foreignKeys : Option (List String) := none
  origin : Origin := .explicit
  deriving DecidableEq, Repr

/-- A named list of columns. -/
structure Index where
  name : String
  columns : List String
  deriving DecidableEq, Repr

/-- A link from the view of one model to that of another. -/
inductive ContextLink where
  /-- From a row to the rows that belong to it. -/
  | drillDown (table route : String)
  /-- From a row to the row it references. -/
  | relatedTable (table route : String)
  deriving DecidableEq, Repr

/-- The menus of one model. -/
structure ModelMenus where
  context : List ContextLink := []
  statistics : List String := []
  deriving DecidableEq, Repr

/-- A table with everything that belongs to it. -/
structure Model where
  id : String
  /-- The name the table is declared under. -/
  name : String
  fields : List Field := []
  relationships : List Relationship := []
  indices : List Index := []
  menus : ModelMenus := {}
  deriving DecidableEq, Repr

/-- An entry of the main menu. -/
structure MainEntry where
  table : String
  route : String
  deriving DecidableEq, Repr

/-- The menus of a schema. -/
structure Menus where
  main : List MainEntry := []
  context : Dictionary (List ContextLink) := .empty
  statistics : Dictionary (List String) := .empty
  deriving DecidableEq

/-- The version of the schemas that are compiled here. -/
def currentVersion : String := "1.0"

/-- All models, in declaration order. -/
structure Schema where
  version : String := currentVersion
  models : List Model := []
  menus : Menus := {}
  deriving DecidableEq

/-- The type as it is written in documents and messages. -/
def FieldType.name : FieldType → String
  | .integer => "Integer"
  | .string => "String"
  | .text => "Text"
  | .dateTime => "DateTime"
  | .date => "Date"
  | .time => "Time"
  | .float => "Float"
  | .decimal => "Decimal"
  | .boolean => "Boolean"

/-- All types. -/
def FieldType.all : List FieldType :=
  [.integer, .string, .text, .dateTime, .date, .time, .float, .decimal, .boolean]

/-- The cardinality as it is written in documents. -/
def Cardinality.name : Cardinality → String
  | .oneToMany => "one-to-many"
  | .manyToOne => "many-to-one"

/-- Both cardinalities. -/
def Cardinality.all : List Cardinality := [.oneToMany, .manyToOne]

/-- The origin as it is written in documents. -/
def Origin.name : Origin → String
  | .explicit => "explicit"
  | .foreignKey => "foreign_key"
  | .inverse => "inverse"

/-- All origins. -/
def Origin.all : List Origin := [.explicit, .foreignKey, .inverse]

namespace MainEntry

/-- The entry of a declared table. -/
def ofTable (table : String) : MainEntry :=
  { table, route := "/view/" ++ table }

end MainEntry

namespace ContextLink

/-- The view of a table, narrowed by a column. -/
def filteredRoute (table filter : String) : String :=
  "/view/" ++ table ++ "?filter=" ++ filter

/-- The link of an association. -/
def toRows (table filter : String) : ContextLink :=
  .drillDown table (filteredRoute table filter)

/-- The link of a foreign key. -/
def toTable (table filter : String) : ContextLink :=
  .relatedTable table (filteredRoute table filter)

end ContextLink

end SchemaLang
