import Mathlib.Data.String.Basic
import SchemaLang.Proofs.Pairing.Fields

/-!
# Default names

A key that asks for no name gives its relationship that of its field, without `_id` or else with
`_rel`. Each of the two rules tells all fields apart, but together they do not: what the second one
makes of a field is what the first one makes of that field's name with `_rel_id` behind it. This is
the only way in which two fields of a table come to share a default name, and the names of the other
sides are shared with it.

## Key results

- `defaultRelationshipName_eq_iff`: when two fields share a default name
- `exists_defaultSides`: what becomes of a key that has nothing but defaults
- `exists_defaultSides_of_plainKeys`: when two such keys of a table share their names
- `names_portAndItsRelation`: there are such tables
-/

namespace SchemaLang

/-! ## Names of fields -/

/-- The name of the field ends in `_id`, behind at least one other character. -/
def HasStem (field : String) : Prop :=
  ∃ stem, stem ≠ "" ∧ field = stem ++ "_id"

/-- The other field has, without its `_id`, the name that the first one is given with `_rel`. -/
def Foreshadows (field other : String) : Prop :=
  ¬ HasStem field ∧ other = field ++ "_rel_id"

/-- One of two different fields is given the default name of the other one. -/
def ShareDefault (field other : String) : Prop :=
  Foreshadows field other ∨ Foreshadows other field

theorem defaultRelationshipName_append_id {stem : String} (h : stem ≠ "") :
    defaultRelationshipName (stem ++ "_id") = stem := by
  obtain ⟨c, rest, hstem⟩ : ∃ c rest, stem.toList.reverse = c :: rest :=
    List.exists_cons_of_ne_nil (by simpa using h)
  have hreverse : (stem ++ "_id").toList.reverse = 'd' :: 'i' :: '_' :: c :: rest := by
    rw [String.toList_append, List.reverse_append, hstem]
    rfl
  have hback : (c :: rest).reverse = stem.toList := by
    rw [← hstem, List.reverse_reverse]
  rw [defaultRelationshipName, hreverse]
  show String.ofList (c :: rest).reverse = stem
  rw [hback, String.ofList_toList]

theorem defaultRelationshipName_of_not_hasStem {field : String} (h : ¬ HasStem field) :
    defaultRelationshipName field = field ++ "_rel" := by
  rw [defaultRelationshipName]
  split
  · next c stem hreverse =>
    refine absurd ⟨String.ofList (c :: stem).reverse, by simp, ?_⟩ h
    have hlist : field.toList = (c :: stem).reverse ++ "_id".toList := by
      rw [← List.reverse_reverse field.toList, hreverse]
      simp
    rw [← String.toList_inj, hlist, String.toList_append]
    congr 1
    exact String.toList_ofList.symm
  · rfl

/-- The rule for fields with a stem leaves what the other rule makes of the field `field`. -/
private theorem eq_stem_iff {field stem : String} :
    field ++ "_rel" = stem ↔ stem ++ "_id" = field ++ "_rel_id" := by
  have hsplit : field ++ "_rel_id" = field ++ "_rel" ++ "_id" := by
    rw [String.append_assoc]
    rfl
  rw [hsplit, String.append_left_inj, eq_comm]

/-- Two fields share a default name if they are one field, or if one of them is called like the other
    one with `_rel_id` behind it. -/
theorem defaultRelationshipName_eq_iff {field other : String} :
    defaultRelationshipName field = defaultRelationshipName other ↔
      field = other ∨ ShareDefault field other := by
  rw [ShareDefault, Foreshadows, Foreshadows]
  by_cases hfield : HasStem field
  · by_cases hother : HasStem other
    · obtain ⟨stem, hstem, rfl⟩ := id hfield
      obtain ⟨stem', hstem', rfl⟩ := id hother
      rw [defaultRelationshipName_append_id hstem, defaultRelationshipName_append_id hstem',
        String.append_left_inj]
      simp [hfield, hother]
    · obtain ⟨stem, hstem, rfl⟩ := id hfield
      have hne : stem ++ "_id" ≠ other := fun heq => hother (heq ▸ hfield)
      rw [defaultRelationshipName_append_id hstem, defaultRelationshipName_of_not_hasStem hother,
        eq_comm, eq_stem_iff]
      simp [hfield, hother, hne]
  · by_cases hother : HasStem other
    · obtain ⟨stem, hstem, rfl⟩ := id hother
      have hne : field ≠ stem ++ "_id" := fun heq => hfield (heq ▸ hother)
      rw [defaultRelationshipName_of_not_hasStem hfield, defaultRelationshipName_append_id hstem,
        eq_stem_iff]
      simp [hfield, hother, hne]
    · -- A name with `_rel_id` behind it has a stem.
      have hstem (name : String) : HasStem (name ++ "_rel_id") :=
        ⟨name ++ "_rel", by simp, by rw [String.append_assoc]; rfl⟩
      have hne : other ≠ field ++ "_rel_id" := fun heq => hother (heq ▸ hstem field)
      have hne' : field ≠ other ++ "_rel_id" := fun heq => hfield (heq ▸ hstem other)
      rw [defaultRelationshipName_of_not_hasStem hfield,
        defaultRelationshipName_of_not_hasStem hother, String.append_left_inj]
      simp [hne, hne']

/-! ## Keys that ask for no names -/

namespace Schema

/-- The field of the model in place `i` is a foreign key to the table of `t` and asks for no name,
    and no association is declared on that table. -/
structure IsPlainKey (s : Schema) (source : String) (i : Nat) (f : Field) (t : Model) : Prop where
  leads : s.keyModel? f = some t
  unnamed : ∀ d, (TableDraft.ofSource source)[i]? = some d → ∀ n ∈ d.namings, n.field = f.name →
    n.relationship = none ∧ n.backPopulates = none
  undeclared : ∀ r ∈ t.relationships, r.origin ≠ .explicit

instance (s : Schema) (source : String) (i : Nat) (f : Field) (t : Model) :
    Decidable (s.IsPlainKey source i f t) :=
  decidable_of_iff
    (s.keyModel? f = some t ∧
      (∀ d ∈ (TableDraft.ofSource source)[i]?, ∀ n ∈ d.namings, n.field = f.name →
        n.relationship = none ∧ n.backPopulates = none) ∧
      ∀ r ∈ t.relationships, r.origin ≠ .explicit)
    ⟨fun ⟨leads, unnamed, undeclared⟩ => ⟨leads, unnamed, undeclared⟩,
      fun h => ⟨h.leads, h.unnamed, h.undeclared⟩⟩

end Schema

/-- The field in place `p` among the keys of `m` has brought about both sides of a key to `t`, which
    have nothing but default names. -/
structure HasDefaultSides (m t : Model) (p : Nat) (f : Field) (key inverse : Relationship) :
    Prop where
  placed : (m.relationships.filter (·.isKeyed))[p]? = some key
  held : inverse ∈ t.relationships
  origin : inverse.origin = .inverse
  sides : KeySides m t key inverse
  keyName : key.name = defaultRelationshipName f.name
  inverseName : inverse.name = Text.lower m.id ++ "_" ++ defaultRelationshipName f.name

section Compiled

variable {source : String} {s : Schema} {m t : Model} {i p : Nat} {f : Field}

/-- Where no relationship of a model is an association, none was declared on its table. -/
theorem declaredAt_eq_nil (h : compile source = .ok s) (ht : s.models[i]? = some t)
    (hundeclared : ∀ r ∈ t.relationships, r.origin ≠ .explicit) :
    Board.declaredAt source i = [] := by
  obtain ⟨d, b, -, hb, -, rfl⟩ := exists_of_getElem?_models h ht
  have hexplicit : b.explicit = [] := by
    refine List.eq_nil_iff_forall_not_mem.mpr fun slot hslot => ?_
    have hmem : slot.relationship ∈ b.relationships :=
      List.mem_append_left _ (List.mem_map_of_mem hslot)
    exact hundeclared _ hmem (Board.origin_of_mem_explicit (List.mem_of_getElem? hb) hslot)
  -- No edge declares anything, so the board was empty from the start.
  have hlength := Board.length_explicitAt_settleAll (Board.declaredOf source)
    (Board.keysOfSource source) i
  rw [← Board.settledOf_eq, Board.explicitAt, hb, Option.map_some, Option.getD_some, hexplicit,
    Board.explicitAt_declaredOf, List.length_map] at hlength
  exact List.length_eq_zero_iff.mp hlength.symm

/-- The edge of a plain key has the default name, and asks for none. -/
theorem names_of_isPlainKey {edge : KeyEdge} (hedge : edge ∈ Board.edgesAt source i)
    (hfield : edge.field = f.name) (hplain : s.IsPlainKey source i f t) :
    edge.name = defaultRelationshipName f.name ∧ edge.inverseName = none := by
  obtain ⟨d, hd⟩ := Board.exists_draft_of_mem_edgesAt hedge
  rw [Board.edgesAt_eq hd, TableDraft.keyEdges] at hedge
  obtain ⟨⟨field, target⟩, -, rfl⟩ := List.mem_map.mp hedge
  obtain rfl : field = f.name := hfield
  cases hnaming : d.naming? f.name with
  | none => exact ⟨by simp [hnaming], by simp [hnaming]⟩
  | some n =>
    have hname : n.field = f.name := by simpa using List.find?_some hnaming
    obtain ⟨hrelationship, hback⟩ :=
      hplain.unnamed d hd n (List.mem_of_find?_eq_some hnaming) hname
    exact ⟨by simp [hnaming, hrelationship], by simp [hnaming, hback]⟩

section Turns

variable {edge : KeyEdge} {o b : Board}

/-- An edge puts an inverse where nothing is declared. -/
theorem partner_eq_inverse (hturn : Board.Turn source i p edge o b)
    (hnil : Board.declaredAt source edge.target = []) :
    (b.settle o.id edge).2 = Board.inverse o.id edge := by
  have hexplicit : b.explicit = [] := by
    rw [← List.length_eq_zero_iff, hturn.length, hnil, List.length_nil]
  have hnone : b.counterpart? o.id edge = none := by simp [Board.counterpart?, hexplicit]
  rw [Board.settle_of_none hnone]

/-- The one-to-many side of an edge is a relationship of the model that the edge leads to. -/
theorem partner_mem_relationships (h : compile source = .ok s)
    (hturn : Board.Turn source i p edge o b) (ht : s.models[edge.target]? = some t) :
    (b.settle o.id edge).2 ∈ t.relationships := by
  have hplace : (Board.bond i o b edge).far.table = edge.target := rfl
  have hfar := relationshipAt?_compile h (Board.bond i o b edge).far
  rw [hturn.far, Schema.relationshipAt?, hplace, ht, Option.bind_some, Option.map_some] at hfar
  exact List.mem_of_getElem? hfar

end Turns

/-- A plain key brings about both of its sides, under default names. -/
theorem exists_defaultSides (h : compile source = .ok s) (hm : s.models[i]? = some m)
    (hf : (s.keyFields m)[p]? = some f) (hplain : s.IsPlainKey source i f t) :
    ∃ key inverse, HasDefaultSides m t p f key inverse := by
  obtain ⟨edge, hedge, hfield, t', ht', htarget⟩ :=
    (forall₂_keyFields_edgesAt h hm).exists_getElem? hf
  obtain rfl : t' = t := Option.some.inj (ht'.symm.trans hplain.leads)
  obtain ⟨hname, hinverseName⟩ := names_of_isPlainKey (List.mem_of_getElem? hedge) hfield hplain
  obtain ⟨o, b, hturn⟩ := Board.exists_turn hedge
  have hid : m.id = o.id := by
    obtain ⟨m', hm', hid⟩ := getElem?_models_of_id h hturn.owner
    rw [← hid, Option.some.inj (hm.symm.trans hm')]
  have hid' : t'.id = b.id := by
    obtain ⟨t'', ht'', hid⟩ := getElem?_models_of_id h hturn.target
    rw [← hid, Option.some.inj (htarget.symm.trans ht'')]
  have hinverse := partner_eq_inverse hturn (declaredAt_eq_nil h htarget hplain.undeclared)
  refine ⟨(Board.inverse o.id edge).reverse b.id, Board.inverse o.id edge, ?_⟩
  rw [← hinverse]
  constructor
  case placed => exact hturn.getElem?_keyed h hm
  case held => exact partner_mem_relationships h hturn htarget
  case origin => rw [hinverse, Board.inverse]
  case sides => exact hturn.keySides hid hid'
  case keyName => rw [hinverse, Relationship.reverse, Board.inverse, hname]
  case inverseName =>
    rw [hinverse, Board.inverse, hinverseName, Option.getD_none, hname, hid]

/-- Two keys of a table that ask for no names, on tables without associations, share the names of
    their relationships and of the other sides exactly if one of the fields is called like the other
    one with `_rel_id` behind it, and that one has no stem. -/
theorem exists_defaultSides_of_plainKeys (h : compile source = .ok s) (hm : s.models[i]? = some m)
    (hnames : (m.fields.map (·.name)).Nodup) {q : Nat} (hne : p ≠ q) {g : Field} {u : Model}
    (hf : (s.keyFields m)[p]? = some f) (hg : (s.keyFields m)[q]? = some g)
    (hplain : s.IsPlainKey source i f t) (hplain' : s.IsPlainKey source i g u) :
    ∃ key key' inverse inverse', HasDefaultSides m t p f key inverse ∧
      HasDefaultSides m u q g key' inverse' ∧
      (key.name = key'.name ↔ ShareDefault f.name g.name) ∧
      (inverse.name = inverse'.name ↔ ShareDefault f.name g.name) := by
  obtain ⟨key, inverse, hsides⟩ := exists_defaultSides h hm hf hplain
  obtain ⟨key', inverse', hsides'⟩ := exists_defaultSides h hm hg hplain'
  have hdifferent : f.name ≠ g.name := by
    intro hname
    have hnodup : ((s.keyFields m).map (·.name)).Nodup :=
      hnames.sublist (List.filter_sublist.map _)
    have hlt : p < ((s.keyFields m).map (·.name)).length := by
      rw [List.length_map]
      exact (List.getElem?_eq_some_iff.mp hf).1
    refine hne ((List.getElem?_inj hlt hnodup).mp ?_)
    rw [List.getElem?_map, List.getElem?_map, hf, hg, Option.map_some, Option.map_some, hname]
  have hdefault : defaultRelationshipName f.name = defaultRelationshipName g.name ↔
      ShareDefault f.name g.name := by
    rw [defaultRelationshipName_eq_iff, or_iff_right hdifferent]
  refine ⟨key, key', inverse, inverse', hsides, hsides', ?_, ?_⟩
  · rw [hsides.keyName, hsides'.keyName, hdefault]
  · rw [hsides.inverseName, hsides'.inverseName, String.append_right_inj, hdefault]

end Compiled

/-- Ports, and legs from one port to another. -/
def legsToTheirGoals : String :=
  "table Port \x7b
id Int [pk]
\x7d
table Leg \x7b
id Int [pk]
port_id Int [ref: > Port.id]
goal Int [ref: > Port.id]
\x7d"

theorem exists_defaultSides_of_plainKeys_legsToTheirGoals :
    ∃ s t m f g, s = Schema.ofChecked legsToTheirGoals ∧ compile legsToTheirGoals = .ok s ∧
      s.models = [t, m] ∧ (m.fields.map (·.name)).Nodup ∧ s.keyFields m = [f, g] ∧
      s.IsPlainKey legsToTheirGoals 1 f t ∧ s.IsPlainKey legsToTheirGoals 1 g t ∧
      ∃ key key' inverse inverse', HasDefaultSides m t 0 f key inverse ∧
        HasDefaultSides m t 1 g key' inverse' ∧
        (key.name = key'.name ↔ ShareDefault f.name g.name) ∧
        (inverse.name = inverse'.name ↔ ShareDefault f.name g.name) := by
  let s := Schema.ofChecked legsToTheirGoals
  obtain ⟨hchecked, t, ht, m, hm, f, hf, g, hg, hall⟩ : checkSource legsToTheirGoals = .ok () ∧
      ∃ t ∈ s.models[0]?, ∃ m ∈ s.models[1]?, ∃ f ∈ (s.keyFields m)[0]?,
        ∃ g ∈ (s.keyFields m)[1]?, s.models = [t, m] ∧ (m.fields.map (·.name)).Nodup ∧
          s.keyFields m = [f, g] ∧ s.IsPlainKey legsToTheirGoals 1 f t ∧
          s.IsPlainKey legsToTheirGoals 1 g t := by
    decide +kernel
  obtain ⟨hmodels, hnames, hkeys, hplain, hplain'⟩ := hall
  have hcompile := compile_eq_ok_iff.mpr ⟨hchecked, rfl⟩
  exact ⟨s, t, m, f, g, rfl, hcompile, hmodels, hnames, hkeys, hplain, hplain',
    exists_defaultSides_of_plainKeys hcompile hm hnames (by decide) hf hg hplain hplain'⟩

/-- Legs whose second key is called like the relationship of the first one, with `_id`. -/
def portAndItsRelation : String :=
  "table Port \x7b
id Int [pk]
\x7d
table Leg \x7b
id Int [pk]
port Int [ref: > Port.id]
port_rel_id Int [ref: > Port.id]
\x7d"

/-- Both keys of a leg have one name, and so have the other sides of both. -/
theorem names_portAndItsRelation :
    ∃ s t m f g, s = Schema.ofChecked portAndItsRelation ∧
      compile portAndItsRelation = .ok s ∧ s.models = [t, m] ∧
      (m.fields.map (·.name)).Nodup ∧ s.keyFields m = [f, g] ∧
      s.IsPlainKey portAndItsRelation 1 f t ∧ s.IsPlainKey portAndItsRelation 1 g t ∧
      (m.relationships.filter (·.isKeyed)).map (·.name) = ["port_rel", "port_rel"] ∧
      (t.relationships.filter (·.origin = .inverse)).map (·.name) =
        ["s002_leg_port_rel", "s002_leg_port_rel"] := by
  let s := Schema.ofChecked portAndItsRelation
  obtain ⟨hchecked, t, -, m, -, f, -, g, -, hall⟩ : checkSource portAndItsRelation = .ok () ∧
      ∃ t ∈ s.models[0]?, ∃ m ∈ s.models[1]?, ∃ f ∈ (s.keyFields m)[0]?,
        ∃ g ∈ (s.keyFields m)[1]?, s.models = [t, m] ∧ (m.fields.map (·.name)).Nodup ∧
          s.keyFields m = [f, g] ∧ s.IsPlainKey portAndItsRelation 1 f t ∧
          s.IsPlainKey portAndItsRelation 1 g t ∧
          (m.relationships.filter (·.isKeyed)).map (·.name) = ["port_rel", "port_rel"] ∧
          (t.relationships.filter (·.origin = .inverse)).map (·.name) =
            ["s002_leg_port_rel", "s002_leg_port_rel"] := by
    decide +kernel
  exact ⟨s, t, m, f, g, rfl, compile_eq_ok_iff.mpr ⟨hchecked, rfl⟩, hall⟩

end SchemaLang
