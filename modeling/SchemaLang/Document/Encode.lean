import SchemaLang.Json.Writer
import SchemaLang.Schema.Basic

/-!
# Schemas as documents

The document of a schema is a JSON object. Models, fields and indices are members under their names,
in order; of a field, only what differs from a plain nullable column is written.
-/

namespace SchemaLang

/-- A member that is left out without a value. -/
def Json.optional (key : String) (value : Option Json) : List (String × Json) :=
  match value with
  | some v => [(key, v)]
  | none => []

/-- A member that is written only where it is true. -/
def Json.flag (key : String) (value : Bool) : List (String × Json) :=
  if value then [(key, .bool true)] else []

/-- The value of a field, without its name. -/
def Field.toJson (f : Field) : Json :=
  let number (n : Option UInt32) := n.map fun w => Json.nat w.toNat
  .record
    ([("type", .text f.type.name)] ++
      Json.optional "length" (number f.size.length) ++
      Json.optional "precision" (number f.size.precision) ++
      Json.optional "scale" (number f.size.scale) ++
      Json.flag "primary_key" f.primaryKey ++
      Json.flag "auto_increment" f.autoIncrement ++
      [("nullable", .bool f.nullable)] ++
      Json.flag "unique" f.unique ++
      Json.optional "foreign_key" (f.foreignKey.map .text) ++
      Json.optional "default" (f.defaultLiteral.map .text))

/-- The value of a relationship. -/
def Relationship.toJson (r : Relationship) : Json :=
  .record
    ([("field_name", .text r.name), ("target_model", .text r.target),
      ("type", .text r.cardinality.name), ("back_populates", .text r.backPopulates)] ++
      Json.optional "foreign_keys" (r.foreignKeys.map .texts) ++
      [("origin", .text r.origin.name)])

/-- The value of a context link. Its first key tells the two kinds apart. -/
def ContextLink.toJson : ContextLink → Json
  | drillDown table route => .record [("drill_down", .text table), ("route", .text route)]
  | relatedTable table route => .record [("related_table", .text table), ("route", .text route)]

/-- The value of some context links. -/
def ContextLink.listToJson (links : List ContextLink) : Json :=
  .array (links.map ContextLink.toJson)

/-- The value of the menus of a model. -/
def ModelMenus.toJson (m : ModelMenus) : Json :=
  .record [("Context", ContextLink.listToJson m.context), ("Statistics", .texts m.statistics)]

/-- The value of a model, without its identifier. -/
def Model.toJson (m : Model) : Json :=
  .record
    [("Fields", .record (m.fields.map fun f => (f.name, f.toJson))),
      ("Relationships", .array (m.relationships.map Relationship.toJson)),
      ("Indices", .record (m.indices.map fun ix => (ix.name, .texts ix.columns))),
      ("Menus", m.menus.toJson)]

/-- The value of an entry of the main menu. -/
def MainEntry.toJson (e : MainEntry) : Json :=
  .record [("table", .text e.table), ("route", .text e.route)]

/-- The value of the menus of a schema. -/
def Menus.toJson (m : Menus) : Json :=
  .record
    [("Main", .array (m.main.map MainEntry.toJson)),
      ("Context", .record (m.context.entries.map fun (key, links) =>
        (key, ContextLink.listToJson links))),
      ("Statistics", .record (m.statistics.entries.map fun (key, names) => (key, .texts names)))]

namespace Schema

/-- The value of a schema. -/
def toJson (s : Schema) : Json :=
  .record
    [("version", .text s.version),
      ("Models", .record (s.models.map fun m => (m.id, m.toJson))),
      ("Menus", s.menus.toJson)]

/-- The document of a schema. -/
def toDocument (s : Schema) : String :=
  s.toJson.toDocument

end Schema

end SchemaLang
