import SchemaLang.Schema.Lookup

/-!
# Table drafts

What is known of a table once its own block has been read, and before its relationships are: the
columns and indices of the model, the associations it declares, the names its foreign keys ask for,
and the links of its context menu.
-/

namespace SchemaLang

/-- A field that stands for the rows of another table. -/
structure Association where
  fieldName : String
  /-- The other table, as the source names it. -/
  target : String
  /-- It is declared as a relationship, and not only as a link. -/
  annotated : Bool
  backPopulates : Option String
  deriving DecidableEq, Repr

/-- The names that a foreign key asks for. -/
structure KeyNaming where
  field : String
  /-- The name of the relationship that follows the key. -/
  relationship : Option String
  /-- The name of its other side. -/
  backPopulates : Option String
  deriving DecidableEq, Repr

/-- A column, and what its attributes say beside it. -/
structure ColumnDraft where
  field : Field
  indexed : Bool := false
  relationshipName : Option String := none
  backPopulates : Option String := none
  deriving DecidableEq, Repr

/-- What a field line declares. -/
inductive Member where
  | association (association : Association)
  | column (column : ColumnDraft)
  deriving DecidableEq, Repr

/-- A table whose block has been read. -/
structure TableDraft where
  id : String
  name : String
  fields : List Field
  indices : List Index
  associations : List Association
  namings : List KeyNaming
  links : List ContextLink
  deriving DecidableEq, Repr

/-- The name of the index on a single column of a model. -/
def columnIndexName (id column : String) : String :=
  "ix_" ++ Text.lower id ++ "_" ++ column

/-- The index on a single column of a model. -/
def columnIndex (id column : String) : Index :=
  { name := columnIndexName id column, columns := [column] }

end SchemaLang
