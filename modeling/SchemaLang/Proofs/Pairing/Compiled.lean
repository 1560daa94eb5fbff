import SchemaLang.Compile
import SchemaLang.Proofs.ForStd.List
import SchemaLang.Proofs.Pairing.Ledger
import SchemaLang.Proofs.Schema.Identifier

/-!
# The boards of a compiled schema

The relationships of a compiled schema stand on the boards that are left when all edges are settled.
This module ties the two together, so that what the ledger says of boards can be said of schemas.

## Key results

- `kept_bondsOf`: the ledger of a source accounts for its settled boards
- `exists_of_getElem?_models`: a compiled model is made of a draft and a settled board
- `relationshipAt?_compile`: a relationship of the schema is a slot of the boards
- `place_unique_of_compile`: identifiers are distinct
- `model?_of_compile`, `modelByTable?_of_compile`: so that each model is found under its own
-/

namespace SchemaLang

/-! ## Boards of a source -/

namespace Board

/-- The boards of a source before any edge is settled. -/
def declaredOf (source : String) : List Board :=
  (TableDraft.ofSource source).map (ofDraft (Registry.ofSource source))

/-- The edges of a source, each with the place of its owner, in the order in which they are
    settled. -/
def keysOfSource (source : String) : List (Nat × KeyEdge) :=
  let drafts := TableDraft.ofSource source
  keysOf (edgesOf drafts) (List.range drafts.length)

/-- The boards of a source when all edges are settled. -/
def settledOf (source : String) : List Board :=
  ofDrafts (Registry.ofSource source) (TableDraft.ofSource source)

/-- The bonds of the edges of a source. -/
def bondsOf (source : String) : List Bond :=
  ledger (declaredOf source) (keysOfSource source)

theorem settledOf_eq (source : String) :
    settledOf source = settleAll (declaredOf source) (keysOfSource source) :=
  settleOwners_eq_settleAll _ _ _

/-- The boards of drafts hold what the associations declare. -/
theorem slotAt?_declaredOf {source : String} {p : Place} {slot : Slot}
    (h : slotAt? (declaredOf source) p = some slot) :
    ∃ d a, (TableDraft.ofSource source)[p.table]? = some d ∧
      (d.associations.filter (·.annotated))[p.position]? = some a ∧
      slot.relationship.name = a.fieldName ∧
      slot.relationship.backPopulates = a.backPopulates.getD "" ∧
      slot.relationship.foreignKeys = none ∧ slot.claimed = false ∧
      slot.relationship.cardinality = .oneToMany ∧ slot.relationship.origin = .explicit := by
  simp only [slotAt?, declaredOf, List.getElem?_map, Option.bind_eq_some_iff,
    Option.map_eq_some_iff] at h
  obtain ⟨_, ⟨d, hd, rfl⟩, hslot⟩ := h
  simp only [slots, ofDraft, List.map_nil, List.append_nil, List.getElem?_map,
    Option.map_eq_some_iff] at hslot
  obtain ⟨a, ha, rfl⟩ := hslot
  exact ⟨d, a, hd, ha, rfl, rfl, rfl, rfl, rfl, rfl⟩

theorem allDeclared_declaredOf (source : String) : AllDeclared (declaredOf source) := by
  intro p slot hslot
  obtain ⟨_, _, -, -, -, -, -, hfree, hcardinality, horigin⟩ := slotAt?_declaredOf hslot
  exact ⟨hfree, hcardinality, horigin⟩

/-- The ledger of a source accounts for its settled boards. -/
theorem kept_bondsOf (source : String) :
    Kept (declaredOf source) (settledOf source) (bondsOf source) := by
  rw [settledOf_eq]
  exact kept_ledger (allDeclared_declaredOf source) _

theorem map_id_settledOf (source : String) :
    (settledOf source).map (·.id) = (TableDraft.ofSource source).map (·.id) := by
  rw [settledOf_eq, map_settleAll _ map_id_settleEdge, declaredOf, List.map_map]
  rfl

theorem length_settledOf (source : String) :
    (settledOf source).length = (TableDraft.ofSource source).length := by
  simpa using congrArg List.length (map_id_settledOf source)

/-- What a claim leaves alone in a slot is as it was declared. -/
theorem map_explicit_settledOf {α : Type} (view : Slot → α)
    (hclaim : ∀ slot edge, view (Slot.claim edge slot) = view slot) (source : String) :
    (settledOf source).map (·.explicit.map view) =
      (declaredOf source).map (·.explicit.map view) := by
  rw [settledOf_eq]
  exact map_settleAll _ (map_settleEdge _ (map_explicit_settle hclaim) fun _ _ => rfl) _ _

/-- Only associations are kept among the declared relationships. -/
theorem origin_of_mem_explicit {source : String} {b : Board} (hb : b ∈ settledOf source)
    {slot : Slot} (hslot : slot ∈ b.explicit) : slot.relationship.origin = .explicit := by
  -- No edge changes an origin, so each is one that the board was made with.
  have horigins : (settledOf source).map declaredOrigins =
      (declaredOf source).map declaredOrigins :=
    map_explicit_settledOf (·.relationship.origin) (fun _ _ => rfl) source
  have hmem : b.declaredOrigins ∈ (declaredOf source).map declaredOrigins :=
    horigins ▸ List.mem_map_of_mem hb
  obtain ⟨_, hdeclared, heq⟩ := List.mem_map.mp hmem
  obtain ⟨d, -, rfl⟩ := List.mem_map.mp hdeclared
  have horigin : slot.relationship.origin ∈ b.declaredOrigins := List.mem_map_of_mem hslot
  rw [← heq] at horigin
  simp only [declaredOrigins, ofDraft, List.map_map, List.mem_map] at horigin
  obtain ⟨_, -, h⟩ := horigin
  exact h.symm

/-- The many-to-one sides on a settled board are its relationships that follow a key. -/
theorem keyed_eq_filter {source : String} {b : Board} (hb : b ∈ settledOf source) :
    b.keyed = b.relationships.filter (·.isKeyed) := by
  have hexplicit : (b.explicit.map (·.relationship)).filter (·.isKeyed) = [] := by
    rw [List.filter_eq_nil_iff]
    intro r hr
    obtain ⟨slot, hslot, rfl⟩ := List.mem_map.mp hr
    simp [Relationship.isKeyed, origin_of_mem_explicit hb hslot]
  rw [relationships, List.filter_append, hexplicit, List.nil_append, keyed]

end Board

/-! ## Identifiers of a source -/

/-- The identifier of a draft tells its place and its name. -/
theorem TableDraft.id_of_getElem?_ofSource {source : String} {i : Nat} {d : TableDraft}
    (h : (ofSource source)[i]? = some d) : d.id = canonicalId (1 + i) d.name := by
  simp only [ofSource, List.getElem?_zipWith_eq_some, Registry.ofSource, List.getElem?_map,
    Option.map_eq_some_iff, List.getElem?_zipIdx] at h
  obtain ⟨entry, block, ⟨_, ⟨header, -, rfl⟩, rfl⟩, -, rfl⟩ := h
  rfl

/-- Identifiers that agree up to the case of letters stand for one table. -/
theorem TableDraft.eq_of_sameAsciiLetters {source : String} {i j : Nat} {d d' : TableDraft}
    (hd : (ofSource source)[i]? = some d) (hd' : (ofSource source)[j]? = some d')
    (h : Text.sameAsciiLetters d.id d'.id = true) : i = j := by
  rw [id_of_getElem?_ofSource hd, id_of_getElem?_ofSource hd'] at h
  have := seq_eq_of_sameAsciiLetters h
  omega

/-! ## The compiled schema -/

/-- The relationship at a place. -/
def Schema.relationshipAt? (s : Schema) (p : Place) : Option Relationship :=
  s.models[p.table]?.bind (·.relationships[p.position]?)

/-- What a source that can be read compiles to. -/
def Schema.ofChecked (source : String) : Schema :=
  { models := modelsOf source, menus := .ofModels (modelsOf source) }

/-- A source compiles if it can be read, and to what it holds. -/
theorem compile_eq_ok_iff {source : String} {s : Schema} :
    compile source = .ok s ↔ checkSource source = .ok () ∧ s = .ofChecked source := by
  rw [compile]
  cases checkSource source with
  | error e => exact ⟨nofun, fun h => nomatch h.1⟩
  | ok u =>
    constructor
    · intro h
      exact ⟨rfl, (Except.ok.inj h).symm⟩
    · rintro ⟨-, rfl⟩
      rfl

section Compiled

variable {source : String} {s : Schema}

/-- A compiled source has a model for each of its drafts. -/
theorem models_of_compile (h : compile source = .ok s) :
    s.models = ((TableDraft.ofSource source).zipWith Model.ofDraft (Board.settledOf source)).map
      Model.deriveIndices := by
  rw [(compile_eq_ok_iff.mp h).2]
  rfl

/-- A compiled model is made of the draft and the settled board in its place. -/
theorem exists_of_getElem?_models (h : compile source = .ok s) {i : Nat} {m : Model}
    (hm : s.models[i]? = some m) :
    ∃ d b, (TableDraft.ofSource source)[i]? = some d ∧ (Board.settledOf source)[i]? = some b ∧
      b.id = d.id ∧ m = (Model.ofDraft d b).deriveIndices := by
  simp only [models_of_compile h, List.getElem?_map, Option.map_eq_some_iff,
    List.getElem?_zipWith_eq_some] at hm
  obtain ⟨_, ⟨d, b, hd, hb, rfl⟩, rfl⟩ := hm
  -- The board was made of the same draft, and no edge has changed its identifier.
  have hids := congrArg (·[i]?) (Board.map_id_settledOf source)
  simp only [List.getElem?_map, hd, hb, Option.map_some, Option.some.injEq] at hids
  exact ⟨d, b, hd, hb, hids, rfl⟩

/-- The identifier of a compiled model tells its place. -/
theorem exists_id_of_getElem?_models (h : compile source = .ok s) {i : Nat} {m : Model}
    (hm : s.models[i]? = some m) : ∃ name, m.id = canonicalId (1 + i) name := by
  obtain ⟨d, b, hd, -, -, rfl⟩ := exists_of_getElem?_models h hm
  exact ⟨d.name, TableDraft.id_of_getElem?_ofSource hd⟩

/-- What a model takes over from its draft. -/
theorem map_models_of_compile {α : Type} (h : compile source = .ok s) {view : Model → α}
    {drafted : TableDraft → α}
    (hview : ∀ d b, view (Model.ofDraft d b).deriveIndices = drafted d) :
    s.models.map view = (TableDraft.ofSource source).map drafted := by
  rw [models_of_compile h, List.map_map, List.map_zipWith]
  simp only [Function.comp_apply, hview]
  exact List.zipWith_const_right drafted (Nat.le_of_eq (Board.length_settledOf source).symm)

/-- Models carry the identifiers of the drafts. -/
theorem map_id_drafts (h : compile source = .ok s) :
    (TableDraft.ofSource source).map (·.id) = s.models.map (·.id) :=
  (map_models_of_compile h fun _ _ => rfl).symm

/-- Models carry the identifiers of the boards. -/
theorem map_id_models (h : compile source = .ok s) :
    s.models.map (·.id) = (Board.settledOf source).map (·.id) := by
  rw [Board.map_id_settledOf, map_id_drafts h]

/-- A relationship of the schema stands in a slot of the boards. -/
theorem relationshipAt?_compile (h : compile source = .ok s) (p : Place) :
    s.relationshipAt? p =
      (Board.slotAt? (Board.settledOf source) p).map (·.relationship) := by
  rw [Schema.relationshipAt?, Board.slotAt?]
  cases hm : s.models[p.table]? with
  | none =>
    -- Where there is no model there is no board.
    have hlength : s.models.length = (Board.settledOf source).length := by
      simpa using congrArg List.length (map_id_models h)
    rw [List.getElem?_eq_none_iff, hlength, ← List.getElem?_eq_none_iff] at hm
    rw [hm]
    rfl
  | some m =>
    obtain ⟨d, b, -, hb, -, rfl⟩ := exists_of_getElem?_models h hm
    rw [hb, Option.bind_some, Option.bind_some, ← List.getElem?_map, Board.map_relationship_slots]
    rfl

/-- Models whose identifiers agree up to the case of letters are one model, in one place. -/
theorem place_unique_of_sameAsciiLetters (h : compile source = .ok s) {i j : Nat} {m m' : Model}
    (hm : s.models[i]? = some m) (hm' : s.models[j]? = some m')
    (hid : Text.sameAsciiLetters m.id m'.id = true) : i = j := by
  obtain ⟨d, b, hd, -, -, rfl⟩ := exists_of_getElem?_models h hm
  obtain ⟨d', b', hd', -, -, rfl⟩ := exists_of_getElem?_models h hm'
  exact TableDraft.eq_of_sameAsciiLetters hd hd' hid

/-- Models with one identifier are one model, in one place. -/
theorem place_unique_of_compile (h : compile source = .ok s) {i j : Nat} {m m' : Model}
    (hm : s.models[i]? = some m) (hm' : s.models[j]? = some m') (hid : m.id = m'.id) : i = j :=
  place_unique_of_sameAsciiLetters h hm hm' (by rw [hid, Text.sameAsciiLetters_self])

/-! ## Looking models up -/

variable {m m' : Model}

/-- Models whose identifiers agree up to the case of letters are one model. -/
theorem model_unique_of_sameAsciiLetters (h : compile source = .ok s) (hm : m ∈ s.models)
    (hm' : m' ∈ s.models) (hid : Text.sameAsciiLetters m.id m'.id = true) : m = m' := by
  obtain ⟨i, hi⟩ := List.mem_iff_getElem?.mp hm
  obtain ⟨j, hj⟩ := List.mem_iff_getElem?.mp hm'
  obtain rfl := place_unique_of_sameAsciiLetters h hi hj hid
  exact Option.some.inj (hi.symm.trans hj)

/-- Models with one identifier are one model. -/
theorem model_unique_of_compile (h : compile source = .ok s) (hm : m ∈ s.models)
    (hm' : m' ∈ s.models) (hid : m.id = m'.id) : m = m' :=
  model_unique_of_sameAsciiLetters h hm hm' (by rw [hid, Text.sameAsciiLetters_self])

/-- A model is found under its identifier. -/
theorem model?_of_compile (h : compile source = .ok s) (hm : m ∈ s.models) :
    s.model? m.id = some m :=
  List.find?_eq_some_of_unique hm (beq_self_eq_true _) fun _ hm' hid =>
    model_unique_of_compile h hm' hm (beq_iff_eq.mp hid)

/-- A model is found under its identifier in any case of its letters. -/
theorem modelByTable?_of_compile (h : compile source = .ok s) (hm : m ∈ s.models) {table : String}
    (htable : Text.sameAsciiLetters m.id table = true) : s.modelByTable? table = some m := by
  refine List.find?_eq_some_of_unique hm htable fun m' hm' htable' => ?_
  rw [Text.sameAsciiLetters_iff] at htable htable'
  exact model_unique_of_sameAsciiLetters h hm' hm
    (Text.sameAsciiLetters_iff.mpr (htable'.trans htable.symm))

end Compiled

end SchemaLang
