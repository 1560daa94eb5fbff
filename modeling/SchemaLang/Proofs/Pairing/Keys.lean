import SchemaLang.Proofs.ForStd.List
import SchemaLang.Proofs.Pairing.Compiled

/-!
# The keys of a compiled schema

Among the relationships of a compiled model, those that follow a key stand in the order of its
foreign keys, one for each whose table is declared.

## Key results

- `map_getElem?_keyEdges`: the edges of a draft lead to the tables that its keys name
- `forall₂_keyed_settledOf`: each edge has brought about one relationship
- `map_target_keyed_eq`: what that says of a compiled model
-/

namespace SchemaLang

/-! ## Edges of a source -/

/-- The edges of a draft lead to the tables that its keys name. -/
theorem TableDraft.map_getElem?_keyEdges (ids : List String) (d : TableDraft) :
    (d.keyEdges ids).map (ids[·.target]?) =
      (d.fields.filterMap fun f =>
        f.foreignKeyParts?.bind fun parts => ids.find? (Text.sameAsciiLetters · parts.1)).map
          some := by
  have htargets : (d.keyEdges ids).map (ids[·.target]?) = (d.keyTargets ids).map (ids[·.2]?) := by
    rw [keyEdges, List.map_map]
    rfl
  rw [htargets, keyTargets, List.map_filterMap, List.map_filterMap]
  -- Field by field: the place of the table that the key names leads to its identifier.
  refine List.filterMap_congr fun f _ => ?_
  cases f.foreignKeyParts? with
  | none => rfl
  | some parts =>
    have hlead := List.map_getElem?_findIdx? (Text.sameAsciiLetters · parts.1) ids
    cases hplace : ids.findIdx? (Text.sameAsciiLetters · parts.1) <;>
      simpa [hplace] using hlead

namespace Board

/-- Edges lead from a table to a table. -/
theorem lt_of_mem_keysOfSource {source : String} {key : Nat × KeyEdge}
    (h : key ∈ keysOfSource source) :
    key.1 < (declaredOf source).length ∧ key.2.target < (declaredOf source).length := by
  obtain ⟨owner, howner, hkey⟩ := List.mem_flatMap.mp h
  obtain ⟨edge, hedge, rfl⟩ := List.mem_map.mp hkey
  rw [List.mem_range] at howner
  rw [declaredOf, List.length_map]
  refine ⟨howner, ?_⟩
  rw [edgesOf, List.getElem?_map, List.getElem?_eq_getElem howner, Option.map_some,
    Option.getD_some, TableDraft.keyEdges] at hedge
  obtain ⟨⟨field, target⟩, htarget, rfl⟩ := List.mem_map.mp hedge
  rw [TableDraft.keyTargets] at htarget
  obtain ⟨f, -, hf⟩ := List.mem_filterMap.mp htarget
  simp only [Option.bind_eq_bind, Option.bind_eq_some_iff, Option.some.injEq,
    Prod.mk.injEq] at hf
  obtain ⟨_, -, place, hplace, -, rfl⟩ := hf
  obtain ⟨hlt, -⟩ := List.findIdx?_eq_some_iff_getElem.mp hplace
  simpa using hlt

/-- Before any edge is settled, no relationship follows a key. -/
theorem keyedAt_declaredOf (source : String) (i : Nat) : keyedAt (declaredOf source) i = [] := by
  rw [keyedAt, declaredOf, List.getElem?_map]
  cases (TableDraft.ofSource source)[i]? <;> rfl

/-- Each edge of a table has brought about one relationship, in field order. -/
theorem forall₂_keyed_settledOf {source : String} {i : Nat} {d : TableDraft} {b : Board}
    (hd : (TableDraft.ofSource source)[i]? = some d) (hb : (settledOf source)[i]? = some b) :
    let ids := (TableDraft.ofSource source).map (·.id)
    List.Forall₂ (Follows ids) (d.keyEdges ids) (b.relationships.filter (·.isKeyed)) := by
  intro ids
  have hlt : i < (TableDraft.ofSource source).length := (List.getElem?_eq_some_iff.mp hd).1
  have hids : (declaredOf source).map (·.id) = ids := by
    rw [declaredOf, List.map_map]
    rfl
  obtain ⟨sides, hsides, hfollow⟩ := forall₂_keyed_settleAll (keysOfSource source)
    (declaredOf source) (fun _ => lt_of_mem_keysOfSource) i
  have hkeyed : b.keyed = sides := by
    rw [← settledOf_eq, keyedAt_declaredOf, List.nil_append, keyedAt, hb] at hsides
    exact hsides
  rw [keysOfSource, filter_keysOf _ List.nodup_range, if_pos (List.mem_range.mpr hlt), edgesOf,
    List.getElem?_map, hd, Option.map_some, Option.getD_some, hids] at hfollow
  rw [← keyed_eq_filter (List.mem_of_getElem? hb), hkeyed]
  exact hfollow

end Board

/-! ## Keys of a schema -/

/-- The model whose table a foreign key names. -/
def Schema.keyModel? (s : Schema) (f : Field) : Option Model := do
  let (table, _) ← f.foreignKeyParts?
  s.modelByTable? table

theorem Schema.map_id_keyModel? (s : Schema) (f : Field) :
    (s.keyModel? f).map (·.id) = f.foreignKeyParts?.bind fun parts =>
      (s.models.map (·.id)).find? (Text.sameAsciiLetters · parts.1) := by
  rw [keyModel?, Option.bind_eq_bind, Option.map_bind]
  refine Option.bind_congr fun parts _ => ?_
  rw [List.find?_map]
  rfl

/-- A foreign key is followed to the model whose table it names. -/
theorem Schema.keyModel?_of_resolveForeignKey? {s : Schema} {f : Field} {target : Model}
    {column : Field} (h : s.resolveForeignKey? f = some (target, column)) :
    s.keyModel? f = some target := by
  obtain ⟨⟨table, name⟩, hparts, h⟩ := Option.bind_eq_some_iff.mp h
  obtain ⟨found, hfound, h⟩ := Option.bind_eq_some_iff.mp h
  obtain ⟨_, -, heq⟩ := Option.bind_eq_some_iff.mp h
  cases heq
  rw [keyModel?, hparts]
  exact hfound

/-- Each foreign key with a declared table brings about one relationship, in field order, which
    leads to that table. -/
theorem map_target_keyed_eq {source : String} {s : Schema} (h : compile source = .ok s) {m : Model}
    (hm : m ∈ s.models) :
    (m.relationships.filter (·.isKeyed)).map (·.target) =
      (m.fields.filterMap s.keyModel?).map (·.id) := by
  obtain ⟨i, hi⟩ := List.mem_iff_getElem?.mp hm
  obtain ⟨d, b, hd, hb, -, rfl⟩ := exists_of_getElem?_models h hi
  have hfollow := Board.forall₂_keyed_settledOf hd hb
  rw [map_id_drafts h] at hfollow
  have htargets : (d.keyEdges (s.models.map (·.id))).map ((s.models.map (·.id))[·.target]?) =
      (b.relationships.filter (·.isKeyed)).map (some ·.target) := by
    rw [← List.forall₂_eq_eq_eq, List.forall₂_map_left_iff, List.forall₂_map_right_iff]
    exact hfollow.imp fun _ _ hleads => hleads.1
  have hmodels : (d.fields.filterMap s.keyModel?).map (·.id) = d.fields.filterMap fun f =>
      f.foreignKeyParts?.bind fun parts =>
        (s.models.map (·.id)).find? (Text.sameAsciiLetters · parts.1) := by
    rw [List.map_filterMap]
    exact List.filterMap_congr fun f _ => s.map_id_keyModel? f
  -- Identifiers are compared as they are looked up, so that each stands behind a place.
  refine List.map_injective_iff.mpr (fun _ _ => Option.some.inj) ?_
  calc ((b.relationships.filter (·.isKeyed)).map (·.target)).map some
      = (b.relationships.filter (·.isKeyed)).map (some ·.target) := List.map_map
    _ = (d.keyEdges (s.models.map (·.id))).map ((s.models.map (·.id))[·.target]?) := htargets.symm
    _ = ((d.fields.filterMap s.keyModel?).map (·.id)).map some := by
      rw [TableDraft.map_getElem?_keyEdges, hmodels]

end SchemaLang
