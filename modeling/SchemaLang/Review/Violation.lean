import SchemaLang.Schema.Basic
import SchemaLang.Text.Numeral

/-!
# Violations

What can be wrong with a schema. A violation names the places that are at odds; its kind, the place
it is reported at and its wording follow from that.
-/

namespace SchemaLang

/-- The kind of a violation. -/
inductive ViolationKind where
  /-- Something that does not exist is referred to. -/
  | reference
  /-- Keys, indices and declarations are at odds. -/
  | structural
  /-- A foreign key and the column it references differ in type. -/
  | type
  /-- Names of relationships collide. -/
  | naming
  deriving DecidableEq, Repr

/-- The kind as it is written in reports. -/
def ViolationKind.name : ViolationKind → String
  | reference => "reference"
  | structural => "structure"
  | type => "type"
  | naming => "naming"

/-- One thing that is wrong with a schema. Models are given by their identifiers. -/
inductive Violation where
  | repeatedTable (model name first : String)
  | repeatedField (model field : String)
  | noPrimaryKey (model : String)
  | manyPrimaryKeys (model : String) (fields : List String)
  | malformedForeignKey (model field foreignKey : String)
  | unknownTable (model field table : String)
  | unknownColumn (model field target column : String)
  | typeMismatch (model field : String) (type : FieldType) (target column : String)
      (targetType : FieldType)
  | targetNotKey (model field target column : String)
  | emptyIndex (model index : String)
  | unknownIndexColumn (model index column : String)
  | repeatedIndex (model index first : String)
  | uncoveredForeignKey (model field : String)
  | unknownTarget (model relationship target : String)
  | repeatedRelationship (model relationship : String)
  | relationshipIsColumn (model relationship : String)
  | repeatedBackReference (model relationship first target backPopulates : String)
  | noForeignKey (model relationship target : String)
  | unknownBackReference (model relationship target backPopulates : String)
  | notMutual (model relationship target inverse : String)
  deriving DecidableEq, Repr

namespace Violation

/-- The kind of the violation. -/
def kind : Violation → ViolationKind
  | repeatedTable .. | repeatedField .. | noPrimaryKey .. | manyPrimaryKeys .. | targetNotKey ..
  | emptyIndex .. | unknownIndexColumn .. | repeatedIndex .. | uncoveredForeignKey ..
  | notMutual .. => .structural
  | malformedForeignKey .. | unknownTable .. | unknownColumn .. | unknownTarget ..
  | noForeignKey .. | unknownBackReference .. => .reference
  | typeMismatch .. => .type
  | repeatedRelationship .. | relationshipIsColumn .. | repeatedBackReference .. => .naming

/-- A member of a model, for reports. -/
def member (model name : String) : String := model ++ "." ++ name

/-- The model, or the member of a model, that the violation is reported at. -/
def context : Violation → String
  | repeatedTable model .. | noPrimaryKey model | manyPrimaryKeys model .. | emptyIndex model ..
  | unknownIndexColumn model .. | repeatedIndex model .. => model
  | repeatedField model name | malformedForeignKey model name .. | unknownTable model name ..
  | unknownColumn model name .. | typeMismatch model name .. | targetNotKey model name ..
  | uncoveredForeignKey model name | unknownTarget model name .. | repeatedRelationship model name
  | relationshipIsColumn model name | repeatedBackReference model name ..
  | noForeignKey model name .. | unknownBackReference model name .. | notMutual model name .. =>
    member model name

/-- The wording of the violation. -/
def message : Violation → String
  | repeatedTable _ name first =>
    s!"Table '{name}' is declared more than once (first as {first})"
  | repeatedField model field => s!"Model {model} declares field '{field}' more than once"
  | noPrimaryKey model => s!"Model {model} has no primary key defined"
  | manyPrimaryKeys model fields =>
    s!"Model {model} has multiple primary keys defined (" ++ ", ".intercalate fields ++ ")"
  | malformedForeignKey model field foreignKey =>
    s!"Invalid foreign key in {member model field}: '{foreignKey}' is not of the form table.column"
  | unknownTable model field table =>
    s!"Invalid foreign key in {member model field}: Referenced table '{table}' does not exist"
  | unknownColumn model field target column =>
    s!"Invalid foreign key in {member model field}: " ++
      s!"Referenced column '{member target column}' does not exist"
  | typeMismatch model field type target column targetType =>
    s!"Type mismatch in foreign key {member model field}: " ++
      s!"{type.name} references {targetType.name} column {member target column}"
  | targetNotKey model field target column =>
    s!"Foreign key {member model field} references {member target column}, " ++
      "which is neither a primary key nor unique"
  | emptyIndex model index => s!"Index '{index}' in {model} has no columns"
  | unknownIndexColumn model index column =>
    s!"Invalid index '{index}' in {model}: Referenced column '{column}' does not exist"
  | repeatedIndex model index first =>
    s!"Index name '{index}' in {model} is already used by {first}"
  | uncoveredForeignKey model field =>
    s!"Foreign key {member model field} is not covered by any index"
  | unknownTarget model relationship target =>
    s!"Relationship {member model relationship} targets unknown model '{target}'"
  | repeatedRelationship model relationship =>
    s!"Relationship name '{relationship}' is used more than once in {model}"
  | relationshipIsColumn model relationship =>
    s!"Relationship '{relationship}' in {model} collides with a column of the same name"
  | repeatedBackReference model relationship first target backPopulates =>
    s!"Relationships '{first}' and '{relationship}' in {model} both back-populate " ++
      member target backPopulates
  | noForeignKey model relationship target =>
    s!"Relationship {member model relationship} has no foreign key in {target} " ++
      s!"referencing {model}"
  | unknownBackReference model relationship target backPopulates =>
    s!"Relationship {member model relationship} back-populates " ++
      s!"{member target backPopulates}, which does not exist"
  | notMutual model relationship target inverse =>
    s!"Relationship {member model relationship} and its inverse {member target inverse} " ++
      "do not point at each other"

/-- The line of the violation in a report. -/
def render (v : Violation) : String :=
  s!"[{v.kind.name}:{v.context}] {v.message}"

end Violation

end SchemaLang
