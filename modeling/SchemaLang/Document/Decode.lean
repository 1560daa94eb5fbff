import SchemaLang.Document.Record
import SchemaLang.Json.Reader
import SchemaLang.Schema.Basic
import SchemaLang.Schema.Identifier

/-!
# Schemas from documents

What a document must look like to be a schema. Members that mean nothing are passed over. Names that
are keys of the document may repeat among models, fields and indices and are kept as they stand; the
name of a model is read from its identifier.
-/

namespace SchemaLang

open Json

/-- A field under its name. -/
def Field.ofJson? (name : String) (v : Json) : Option Field := do
  let [type, length, precision, scale, primaryKey, autoIncrement, nullable, unique, foreignKey,
      defaultLiteral] ← v.asRecord? ["type", "length", "precision", "scale", "primary_key",
        "auto_increment", "nullable", "unique", "foreign_key", "default"] | none
  some
    { name
      type := ← required (asName? FieldType.name FieldType.all) type
      size :=
        { length := ← Json.nullable asWord32? length
          precision := ← Json.nullable asWord32? precision
          scale := ← Json.nullable asWord32? scale }
      primaryKey := ← withDefault false asBool? primaryKey
      autoIncrement := ← withDefault false asBool? autoIncrement
      nullable := ← withDefault true asBool? nullable
      unique := ← withDefault false asBool? unique
      foreignKey := ← Json.nullable asText? foreignKey
      defaultLiteral := ← Json.nullable asText? defaultLiteral }

/-- A relationship. -/
def Relationship.ofJson? (v : Json) : Option Relationship := do
  let [name, target, cardinality, backPopulates, foreignKeys, origin] ←
    v.asRecord? ["field_name", "target_model", "type", "back_populates", "foreign_keys",
      "origin"] | none
  some
    { name := ← required asText? name
      target := ← required asText? target
      cardinality := ← required (asName? Cardinality.name Cardinality.all) cardinality
      backPopulates := ← required asText? backPopulates
      foreignKeys := ← Json.nullable asTexts? foreignKeys
      origin := ← withDefault .explicit (asName? Origin.name Origin.all) origin }

/-- An index under its name. -/
def Index.ofJson? (name : String) (v : Json) : Option Index := do
  some { name, columns := ← v.asTexts? }

namespace ContextLink

/-- The texts under two keys of an object in which neither stands twice. -/
def texts? (v : Json) (first second : String) : Option (String × String) := do
  let members ← v.asMembers?
  let firstText ← required asText? (← valueOf? members first)
  let secondText ← required asText? (← valueOf? members second)
  some (firstText, secondText)

/-- A context link inside `above` arrays and objects. It is held whole before its kind is known, so
    it must be plain; a link that could be of either kind leads to rows. -/
def ofJson? (above : Nat) (v : Json) : Option ContextLink :=
  if v.isPlain above then
    ((texts? v "drill_down" "route").map fun (table, route) => drillDown table route).or
      ((texts? v "related_table" "route").map fun (table, route) => relatedTable table route)
  else none

end ContextLink

/-- The menus of a model, which stand inside three objects. -/
def ModelMenus.ofJson? (v : Json) : Option ModelMenus := do
  let [context, statistics] ← v.asRecord? ["Context", "Statistics"] | none
  some
    { context := ← withDefault [] (asArray? (ContextLink.ofJson? 5)) context
      statistics := ← withDefault [] asTexts? statistics }

/-- A model under its identifier. -/
def Model.ofJson? (id : String) (v : Json) : Option Model := do
  let [fields, relationships, indices, menus] ←
    v.asRecord? ["Fields", "Relationships", "Indices", "Menus"] | none
  some
    { id
      name := declaredName id
      fields := ← required (asEntries? Field.ofJson?) fields
      relationships := ← withDefault [] (asArray? Relationship.ofJson?) relationships
      indices := ← withDefault [] (asEntries? Index.ofJson?) indices
      menus := ← withDefault {} ModelMenus.ofJson? menus }

/-- An entry of the main menu. -/
def MainEntry.ofJson? (v : Json) : Option MainEntry := do
  let [table, route] ← v.asRecord? ["table", "route"] | none
  some { table := ← required asText? table, route := ← required asText? route }

/-- A dictionary of values that are all read in the same way. -/
def Dictionary.ofJson? {α : Type} (read : Json → Option α) (v : Json) : Option (Dictionary α) := do
  some (.ofList (← v.asEntries? fun key value => (read value).map (key, ·)))

/-- The menus of a schema. -/
def Menus.ofJson? (v : Json) : Option Menus := do
  let [main, context, statistics] ← v.asRecord? ["Main", "Context", "Statistics"] | none
  some
    { main := ← withDefault [] (asArray? MainEntry.ofJson?) main
      context :=
        ← withDefault .empty (Dictionary.ofJson? (asArray? (ContextLink.ofJson? 4))) context
      statistics := ← withDefault .empty (Dictionary.ofJson? asTexts?) statistics }

namespace Schema

/-- A schema. -/
def ofJson? (v : Json) : Option Schema := do
  let [version, models, menus] ← v.asRecord? ["version", "Models", "Menus"] | none
  some
    { version := ← required asText? version
      models := ← required (asEntries? Model.ofJson?) models
      menus := ← withDefault {} Menus.ofJson? menus }

/-- The schema that a document describes. -/
def ofDocument? (s : String) : Option Schema := do
  ofJson? (← Json.ofDocument? s)

end Schema

end SchemaLang
