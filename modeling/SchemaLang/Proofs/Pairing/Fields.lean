import SchemaLang.Proofs.Pairing.Assignment

/-!
# The fields of edges

An edge is made of a field whose key names a declared table. So the many-to-one relationships that
follow a key stand beside these fields, one for each, in field order.

## Key results

- `forall₂_keyFields_edgesAt`: the edges of a table and their fields
- `isKeyed_iff_manyToOne`: which relationships follow a key
- `forall₂_keyFields_keyed`: the many-to-one relationships of a model and their fields
-/

namespace SchemaLang

namespace Schema

/-- The fields of a model whose keys name the table of a model. -/
def keyFields (s : Schema) (m : Model) : List Field :=
  m.fields.filter fun f => (s.keyModel? f).isSome

/-- The relationship is the many-to-one side of the key that the field is: it leads to the model
    whose table the key names. If it tells its columns, the field is the only one. -/
structure IsKeySide (s : Schema) (f : Field) (r : Relationship) : Prop where
  leads : ∃ t, s.keyModel? f = some t ∧ r.target = t.id
  manyToOne : r.cardinality = .manyToOne
  columns : r.foreignKeys = none ∨ r.foreignKeys = some [f.name]

end Schema

variable {source : String} {s : Schema} {m : Model} {i : Nat}

/-- The edges of a table stand beside their fields, and lead to the tables that these name. -/
theorem forall₂_keyFields_edgesAt (h : compile source = .ok s) (hm : s.models[i]? = some m) :
    List.Forall₂
      (fun f edge => edge.field = f.name ∧
        ∃ t, s.keyModel? f = some t ∧ s.models[edge.target]? = some t)
      (s.keyFields m) (Board.edgesAt source i) := by
  obtain ⟨d, b, hd, -, -, rfl⟩ := exists_of_getElem?_models h hm
  -- The edge is looked up among the identifiers like the model among the models.
  have hplaces (table : String) : (s.models.map (·.id)).findIdx? (Text.sameAsciiLetters · table) =
      s.models.findIdx? fun m => Text.sameAsciiLetters m.id table := List.findIdx?_map
  rw [Board.edgesAt_eq hd, map_id_drafts h, TableDraft.keyEdges, List.forall₂_map_right_iff]
  refine List.forall₂_filter_filterMap ?_ ?_
  · intro f _ hkey
    obtain ⟨t, ht⟩ := Option.isSome_iff_exists.mp hkey
    obtain ⟨⟨table, column⟩, hparts, hfound⟩ := Option.bind_eq_some_iff.mp ht
    obtain ⟨place, hplace, hmodel⟩ := List.exists_findIdx?_of_find? hfound
    refine ⟨(f.name, place), ?_, rfl, t, ht, hmodel⟩
    simp only [hparts, hplaces, hplace, Option.bind_eq_bind, Option.bind_some]
  · intro f _ hkey
    have hnone : s.keyModel? f = none := by
      rwa [Option.isSome_eq_false_iff, Option.isNone_iff_eq_none] at hkey
    cases hparts : f.foreignKeyParts? with
    | none => rfl
    | some parts =>
      have hfound : s.modelByTable? parts.1 = none := by
        rwa [Schema.keyModel?, hparts] at hnone
      have hplace := List.map_getElem?_findIdx? (fun m => Text.sameAsciiLetters m.id parts.1) s.models
      rw [← Schema.modelByTable?, hfound, Option.map_none, Option.map_eq_none_iff] at hplace
      simp only [hplaces, hplace, Option.bind_eq_bind, Option.bind_some, Option.bind_none]

/-- The relationships that follow a key are the many-to-one ones. -/
theorem isKeyed_iff_manyToOne (h : compile source = .ok s) (hm : s.models[i]? = some m)
    {r : Relationship} (hr : r ∈ m.relationships) :
    r.isKeyed = true ↔ r.cardinality = .manyToOne := by
  obtain ⟨j, hj⟩ := List.mem_iff_getElem?.mp hr
  have hplace : s.relationshipAt? ⟨i, j⟩ = some r := by
    rw [Schema.relationshipAt?, hm, Option.bind_some, hj]
  rw [Relationship.isKeyed, beq_iff_eq]
  rcases relationshipAt?_cases h hplace with ⟨-, hcardinality, horigin, -⟩ |
    ⟨_, -, -, hcardinality, horigin⟩ | ⟨_, -, -, hcardinality, horigin⟩
  · simp [hcardinality, horigin]
  · simp [hcardinality, horigin]
  · simp [hcardinality, horigin]

/-- The many-to-one relationships that follow a key stand beside the fields that are keys. -/
theorem forall₂_keyFields_keyed (h : compile source = .ok s) (hm : s.models[i]? = some m) :
    List.Forall₂ s.IsKeySide (s.keyFields m) (m.relationships.filter (·.isKeyed)) := by
  obtain ⟨d, b, hd, hb, -, hmodel⟩ := exists_of_getElem?_models h hm
  have hboard : m.relationships = b.relationships := by
    rw [hmodel]
    rfl
  have hedges : List.Forall₂ (Board.Follows (s.models.map (·.id))) (Board.edgesAt source i)
      (m.relationships.filter (·.isKeyed)) := by
    rw [← map_id_drafts h, Board.edgesAt_eq hd, hboard]
    exact Board.forall₂_keyed_settledOf hd hb
  have hsides := (forall₂_keyFields_edgesAt h hm).comp hedges
  -- The sides are known to be relationships of the model.
  refine (hsides.flip.imp_of_mem_left fun r hr f hside => ?_).flip
  obtain ⟨hr, hkeyed⟩ := List.mem_filter.mp hr
  obtain ⟨edge, ⟨hfield, t, ht, htarget⟩, hleads, hcolumns⟩ := hside
  constructor
  case leads =>
    rw [List.getElem?_map, htarget, Option.map_some, Option.some.injEq] at hleads
    exact ⟨t, ht, hleads.symm⟩
  case manyToOne => exact (isKeyed_iff_manyToOne h hm hr).mp hkeyed
  case columns =>
    rw [hcolumns, KeyEdge.foreignKeys, hfield]
    split
    · exact .inr rfl
    · exact .inl rfl

end SchemaLang
