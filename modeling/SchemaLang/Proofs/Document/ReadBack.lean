import SchemaLang.Compile
import SchemaLang.Document.Decode
import SchemaLang.Proofs.Document.Records
import SchemaLang.Proofs.Pairing.Compiled

/-!
# Reading back schemas

The document of a schema describes the schema, with the order of everything in it and with names
that repeat. Only the names of models are not written: they are read from the identifiers, so that a
schema is read back if its models are named after them. Compiled schemas and schemas that come from
documents are.

## Key results

- `Field.ofJson?_toJson`, `Relationship.ofJson?_toJson`, …: each part of a schema is read back
- `Schema.ofJson?_toJson`: so is the whole
- `Schema.wellFormed_toJson`: its value can be written down
- `Schema.ofDocument?_toDocument_eq_some`: a schema is read back from its document
-/

namespace SchemaLang

open Json

/-! ## Fields, relationships and indices -/

/-- The members of a field. -/
private theorem Field.toJson_eq (f : Field) :
    f.toJson = .record (ofSlots
      [("type", some (text f.type.name)),
        ("length", f.size.length.map fun w => nat w.toNat),
        ("precision", f.size.precision.map fun w => nat w.toNat),
        ("scale", f.size.scale.map fun w => nat w.toNat),
        ("primary_key", if f.primaryKey then some (bool true) else none),
        ("auto_increment", if f.autoIncrement then some (bool true) else none),
        ("nullable", some (bool f.nullable)),
        ("unique", if f.unique then some (bool true) else none),
        ("foreign_key", f.foreignKey.map text),
        ("default", f.defaultLiteral.map text)]) := by
  simp only [toJson, flag_eq_optional, ofSlots, List.flatMap_cons, List.flatMap_nil,
    List.append_assoc, List.append_nil]
  rfl

theorem Field.ofJson?_toJson (f : Field) : Field.ofJson? f.name f.toJson = some f := by
  have htype : (text f.type.name).asName? FieldType.name FieldType.all = some f.type :=
    asName?_name (by cases f.type <;> rfl)
  have hnumber (n : Option UInt32) :
      Json.nullable asWord32? (n.map fun w => nat w.toNat) = some n :=
    nullable_map nofun asWord32?_nat
  have htext (s : Option String) : Json.nullable asText? (s.map text) = some s :=
    nullable_map nofun asText?_text
  rw [ofJson?, toJson_eq, asRecord?_ofSlots]
  · simp only [List.map_cons, List.map_nil, Option.bind_eq_bind, Option.bind_some, required_some,
      htype, hnumber, withDefault_flag, withDefault_some, asBool?_bool, htext]
  · rfl
  · decide

/-- The members of a relationship. -/
private theorem Relationship.toJson_eq (r : Relationship) :
    r.toJson = .record (ofSlots
      [("field_name", some (text r.name)),
        ("target_model", some (text r.target)),
        ("type", some (text r.cardinality.name)),
        ("back_populates", some (text r.backPopulates)),
        ("foreign_keys", r.foreignKeys.map texts),
        ("origin", some (text r.origin.name))]) := by
  simp only [toJson, ofSlots, List.flatMap_cons, List.flatMap_nil, List.append_nil]
  rfl

theorem Relationship.ofJson?_toJson (r : Relationship) :
    Relationship.ofJson? r.toJson = some r := by
  have hcardinality :
      (text r.cardinality.name).asName? Cardinality.name Cardinality.all = some r.cardinality :=
    asName?_name (by cases r.cardinality <;> rfl)
  have horigin : (text r.origin.name).asName? Origin.name Origin.all = some r.origin :=
    asName?_name (by cases r.origin <;> rfl)
  have hkeys : nullable asTexts? (r.foreignKeys.map texts) = some r.foreignKeys :=
    nullable_map nofun asTexts?_texts
  rw [ofJson?, toJson_eq, asRecord?_ofSlots]
  · simp only [List.map_cons, List.map_nil, Option.bind_eq_bind, Option.bind_some, required_some,
      hcardinality, withDefault_some, asText?_text, hkeys, horigin]
  · rfl
  · decide

theorem Index.ofJson?_toJson (ix : Index) :
    Index.ofJson? ix.name (texts ix.columns) = some ix := by
  rw [ofJson?, asTexts?_texts]
  rfl

/-! ## Menus -/

/-- A record with all its members. -/
private theorem record_eq (members : List (String × Json)) :
    Json.record members = .record (ofSlots (members.map fun m => (m.1, some m.2))) := by
  rw [ofSlots, List.flatMap_map]
  simp [Json.optional]

/-- A link is plain where there is room for it. -/
private theorem ContextLink.isPlain_toJson {above : Nat} (h : above < nestingLimit)
    (link : ContextLink) : link.toJson.isPlain above = true := by
  have hheight : link.toJson.height = 1 := by cases link <;> rfl
  have htexts : link.toJson.hasTexts = true := by cases link <;> rfl
  rw [isPlain, htexts, hheight, Bool.true_and, decide_eq_true_eq]
  exact h

/-- A link is read back as one of its kind. -/
theorem ContextLink.ofJson?_toJson {above : Nat} (h : above < nestingLimit) (link : ContextLink) :
    ContextLink.ofJson? above link.toJson = some link := by
  rw [ofJson?, if_pos (link.isPlain_toJson h)]
  cases link with
  | drillDown table route => rfl
  | relatedTable table route => rfl

theorem ContextLink.asArray?_listToJson {above : Nat} (h : above < nestingLimit)
    (links : List ContextLink) :
    (ContextLink.listToJson links).asArray? (ContextLink.ofJson? above) = some links :=
  asArray?_array fun link _ => link.ofJson?_toJson h

theorem ModelMenus.ofJson?_toJson (m : ModelMenus) : ModelMenus.ofJson? m.toJson = some m := by
  have hlinks : (ContextLink.listToJson m.context).asArray? (ContextLink.ofJson? 5) =
      some m.context :=
    ContextLink.asArray?_listToJson (by decide) m.context
  rw [ofJson?, toJson, record_eq, asRecord?_ofSlots]
  · simp only [List.map_cons, List.map_nil, Option.bind_eq_bind, Option.bind_some,
      withDefault_some, hlinks, asTexts?_texts]
  · rfl
  · decide

theorem MainEntry.ofJson?_toJson (e : MainEntry) : MainEntry.ofJson? e.toJson = some e := by
  rw [ofJson?, toJson, record_eq, asRecord?_ofSlots]
  · simp only [List.map_cons, List.map_nil, Option.bind_eq_bind, Option.bind_some, required_some,
      asText?_text]
  · rfl
  · decide

theorem Dictionary.ofJson?_toJson {α : Type} {write : α → Json} {read : Json → Option α}
    (h : ∀ x, read (write x) = some x) (d : Dictionary α) :
    Dictionary.ofJson? read (.record (d.entries.map fun (key, x) => (key, write x))) = some d := by
  have hentries : (Json.record (d.entries.map fun (key, x) => (key, write x))).asEntries?
      (fun key value => (read value).map (key, ·)) = some d.entries := by
    refine asEntries?_record fun entry _ => ?_
    rw [h, Option.map_some]
  rw [ofJson?, hentries, Option.bind_eq_bind, Option.bind_some, ofList_entries]

theorem Menus.ofJson?_toJson (m : Menus) : Menus.ofJson? m.toJson = some m := by
  have hmain : (array (m.main.map MainEntry.toJson)).asArray? MainEntry.ofJson? = some m.main :=
    asArray?_array fun e _ => e.ofJson?_toJson
  have hlinks : ∀ links, (ContextLink.listToJson links).asArray? (ContextLink.ofJson? 4) =
      some links :=
    ContextLink.asArray?_listToJson (by decide)
  have hcontext := m.context.ofJson?_toJson hlinks
  have hstatistics := m.statistics.ofJson?_toJson asTexts?_texts
  rw [ofJson?, toJson, record_eq, asRecord?_ofSlots]
  · simp only [List.map_cons, List.map_nil, Option.bind_eq_bind, Option.bind_some,
      withDefault_some, hmain, hcontext, hstatistics]
  · rfl
  · decide

/-! ## Models -/

/-- A model is read back under its identifier, if it has the name that this tells. -/
theorem Model.ofJson?_toJson {m : Model} (h : m.name = declaredName m.id) :
    Model.ofJson? m.id m.toJson = some m := by
  have hfields : (Json.record (m.fields.map fun f => (f.name, f.toJson))).asEntries? Field.ofJson? =
      some m.fields :=
    asEntries?_record fun f _ => f.ofJson?_toJson
  have hrelationships : (array (m.relationships.map Relationship.toJson)).asArray?
      Relationship.ofJson? = some m.relationships :=
    asArray?_array fun r _ => r.ofJson?_toJson
  have hindices : (Json.record (m.indices.map fun ix => (ix.name, texts ix.columns))).asEntries?
      Index.ofJson? = some m.indices :=
    asEntries?_record fun ix _ => ix.ofJson?_toJson
  rw [ofJson?, toJson, record_eq, asRecord?_ofSlots]
  · simp only [List.map_cons, List.map_nil, Option.bind_eq_bind, Option.bind_some, required_some,
      withDefault_some, hfields, hrelationships, hindices, ModelMenus.ofJson?_toJson, ← h]
  · rfl
  · decide

/-- A model that is read has the name that its identifier tells. -/
theorem Model.name_of_ofJson? {id : String} {v : Json} {m : Model}
    (h : Model.ofJson? id v = some m) : m.name = declaredName m.id := by
  simp only [ofJson?, Option.bind_eq_bind, Option.bind_eq_some_iff] at h
  obtain ⟨values, -, h⟩ := h
  split at h
  · simp only [Option.bind_eq_some_iff, Option.some.injEq] at h
    obtain ⟨fields, -, relationships, -, indices, -, menus, -, rfl⟩ := h
    rfl
  · cases h

namespace Schema

/-- Every model has the name that its identifier tells. -/
def HasDeclaredNames (s : Schema) : Prop :=
  ∀ m ∈ s.models, m.name = declaredName m.id

instance (s : Schema) : Decidable s.HasDeclaredNames :=
  inferInstanceAs (Decidable (∀ m ∈ s.models, m.name = declaredName m.id))

/-- The value of a schema describes it. -/
theorem ofJson?_toJson {s : Schema} (h : s.HasDeclaredNames) : ofJson? s.toJson = some s := by
  have hmodels : (Json.record (s.models.map fun m => (m.id, m.toJson))).asEntries? Model.ofJson? =
      some s.models :=
    asEntries?_record fun m hm => Model.ofJson?_toJson (h m hm)
  rw [ofJson?, toJson, record_eq, asRecord?_ofSlots]
  · simp only [List.map_cons, List.map_nil, Option.bind_eq_bind, Option.bind_some, required_some,
      asText?_text, withDefault_some, hmodels, Menus.ofJson?_toJson]
  · rfl
  · decide

/-- A schema that is read has declared names. -/
theorem hasDeclaredNames_of_ofJson? {v : Json} {s : Schema} (h : ofJson? v = some s) :
    s.HasDeclaredNames := by
  simp only [ofJson?, Option.bind_eq_bind, Option.bind_eq_some_iff] at h
  obtain ⟨values, -, h⟩ := h
  split at h
  · next version entries menus =>
    simp only [Option.bind_eq_some_iff, Option.some.injEq] at h
    obtain ⟨version, -, models, hmodels, menus, -, rfl⟩ := h
    intro m hm
    simp only [required, asEntries?, Option.bind_eq_bind, Option.bind_eq_some_iff] at hmodels
    obtain ⟨v, -, members, -, hread⟩ := hmodels
    -- Each model is read under its key.
    obtain ⟨⟨key, value⟩, -, hm⟩ := List.exists_mem_of_mapM_eq_some hread hm
    exact Model.name_of_ofJson? hm
  · cases h

end Schema

/-! ## Written values -/

theorem Field.wellFormed_toJson (f : Field) : f.toJson.WellFormed := by
  rw [toJson_eq]
  apply wellFormed_ofSlots
  simp

theorem Relationship.wellFormed_toJson (r : Relationship) : r.toJson.WellFormed := by
  rw [toJson_eq]
  apply wellFormed_ofSlots
  simp

theorem ContextLink.wellFormed_listToJson (links : List ContextLink) :
    (listToJson links).WellFormed := by
  rw [listToJson, wellFormed_array_iff, List.forall_mem_map]
  intro link _
  cases link <;> simp [toJson, wellFormed_record_iff]

theorem ModelMenus.wellFormed_toJson (m : ModelMenus) : m.toJson.WellFormed := by
  simp [toJson, wellFormed_record_iff, ContextLink.wellFormed_listToJson]

/-- A dictionary can be written down if its values can. -/
private theorem Dictionary.wellFormed_record {α : Type} {write : α → Json}
    (h : ∀ x, (write x).WellFormed) (d : Dictionary α) :
    (Json.record (d.entries.map fun (key, x) => (key, write x))).WellFormed := by
  rw [wellFormed_record_iff, List.forall_mem_map]
  exact fun entry _ => h entry.2

theorem Menus.wellFormed_toJson (m : Menus) : m.toJson.WellFormed := by
  have hmain : ∀ e : MainEntry, e.toJson.WellFormed := fun e => by
    simp [MainEntry.toJson, wellFormed_record_iff]
  have hcontext := m.context.wellFormed_record ContextLink.wellFormed_listToJson
  have hstatistics := m.statistics.wellFormed_record wellFormed_texts
  rw [toJson, wellFormed_record_iff]
  simp [hcontext, hstatistics, wellFormed_array_iff, hmain]

theorem Model.wellFormed_toJson (m : Model) : m.toJson.WellFormed := by
  simp [toJson, wellFormed_record_iff, wellFormed_array_iff, Field.wellFormed_toJson,
    Relationship.wellFormed_toJson, ModelMenus.wellFormed_toJson]

/-- The value of a schema can be written down. -/
theorem Schema.wellFormed_toJson (s : Schema) : s.toJson.WellFormed := by
  simp [toJson, wellFormed_record_iff, Model.wellFormed_toJson, Menus.wellFormed_toJson]

/-! ## Documents -/

namespace Schema

/-- A compiled schema has declared names. -/
theorem hasDeclaredNames_of_compile {source : String} {s : Schema} (h : compile source = .ok s) :
    s.HasDeclaredNames := by
  intro m hm
  obtain ⟨i, hi⟩ := List.mem_iff_getElem?.mp hm
  obtain ⟨d, b, hd, -, -, rfl⟩ := exists_of_getElem?_models h hi
  show d.name = declaredName d.id
  rw [TableDraft.id_of_getElem?_ofSource hd, declaredName_canonicalId]

/-- A schema that comes from a document has declared names. -/
theorem hasDeclaredNames_of_ofDocument? {text : String} {s : Schema}
    (h : ofDocument? text = some s) : s.HasDeclaredNames := by
  rw [ofDocument?, Option.bind_eq_bind, Option.bind_eq_some_iff] at h
  obtain ⟨v, -, hv⟩ := h
  exact hasDeclaredNames_of_ofJson? hv

/-- A schema with declared names is read back from its document as it is. Compiled schemas have
    declared names, and so have those that come from documents. -/
theorem ofDocument?_toDocument_eq_some :
    (∀ s : Schema, s.HasDeclaredNames → ofDocument? s.toDocument = some s) ∧
      (∀ source s, compile source = .ok s → s.HasDeclaredNames) ∧
      ∀ text s, ofDocument? text = some s → s.HasDeclaredNames := by
  refine ⟨fun s hs => ?_, fun _ _ => hasDeclaredNames_of_compile,
    fun _ _ => hasDeclaredNames_of_ofDocument?⟩
  rw [ofDocument?, toDocument, Json.ofDocument?_toDocument s.wellFormed_toJson,
    Option.bind_eq_bind, Option.bind_some, ofJson?_toJson hs]

/-- Two models under one identifier and two fields under one name, with links of both kinds and
    texts that must be escaped. -/
def crowded : Schema where
  version := "\"1\"\n"
  models :=
    [{ id := "S001_Größe"
       name := "Größe"
       fields :=
        [{ name := "id", type := .integer, primaryKey := true, nullable := false },
          { name := "id", type := .decimal, size := { precision := some 4294967295, scale := some 0 },
            foreignKey := some "S001_größe.😀", defaultLiteral := some "" }]
       relationships :=
        [{ name := "", target := "S001_Größe", cardinality := .manyToOne, backPopulates := "\u0001",
           foreignKeys := some [], origin := .foreignKey }]
       indices := [{ name := "ix", columns := [] }, { name := "ix", columns := ["id", "id"] }]
       menus :=
        { context := [.relatedTable "a/b" "\\", .drillDown "c" ""], statistics := ["\t"] } },
      { id := "S001_Größe", name := "Größe" },
      { id := "ports", name := "ports" }]
  menus :=
    { main := [.ofTable "Größe"]
      context := .ofList [("Größe", [.drillDown "a" "b"])]
      statistics := .ofList [("é", []), ("a", ["b"])] }

/-- One table. -/
def ports : String :=
  "table Port \x7b
id Int [pk]
\x7d"

theorem ofDocument?_toDocument_crowded :
    (crowded.HasDeclaredNames ∧ ofDocument? crowded.toDocument = some crowded) ∧
      compile ports = .ok (.ofChecked ports) ∧ (ofChecked ports).HasDeclaredNames := by
  obtain ⟨hread, hcompiled, hdocument⟩ := ofDocument?_toDocument_eq_some
  have hcompile : compile ports = .ok (.ofChecked ports) :=
    compile_eq_ok_iff.mpr ⟨by decide +kernel, rfl⟩
  have hcrowded : ofDocument? crowded.toDocument = some crowded :=
    hread crowded (by decide +kernel)
  exact ⟨⟨hdocument crowded.toDocument crowded hcrowded, hcrowded⟩, hcompile,
    hcompiled ports _ hcompile⟩

end Schema

end SchemaLang
