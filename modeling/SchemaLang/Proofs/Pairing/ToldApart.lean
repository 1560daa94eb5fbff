import SchemaLang.Proofs.Output.Inputs

/-!
# Keys to one table told apart

Where a model has several keys to one table, the two tables alone do not tell which relationship
follows which key. Each of them then names its column, and so does its partner. Whether it does is
settled from the keys of the owner before any of them has a partner, and no later key changes it.

## Key results

- `forall₂_keysTo_edgesAt`, `shared_iff_of_keysTo`: an edge is shared if its owner has several keys
  to the table
- `forall₂_keysTo_sidesTo`: the keys of a model to a table and their many-to-one sides
- `exists_isToldApart`: what relationships say of their columns
-/

namespace SchemaLang

namespace Model

/-- The foreign keys of a model that name the table of `t`, in any case of its letters. -/
def keysTo (m t : Model) : List Field :=
  m.foreignKeyFields.filter fun f =>
    f.foreignKeyParts?.any fun (table, _) => Text.sameAsciiLetters t.id table

/-- The many-to-one relationships of a model with `t`. -/
def sidesTo (m t : Model) : List Relationship :=
  m.relationships.filter fun r => r.cardinality == .manyToOne && r.target == t.id

/-- What the relationship of a key to `t` says of its columns: nothing, if the key is the only
    one. -/
def columnsFor (m t : Model) (f : Field) : Option (List String) :=
  if (m.keysTo t).length < 2 then none else some [f.name]

end Model

namespace Schema

/-- The places of the many-to-one relationships. -/
def sidePlaces (s : Schema) : Set Place :=
  {p | ∃ r, s.relationshipAt? p = some r ∧ r.cardinality = .manyToOne}

/-- Keys to one table are told apart by their columns, and `partner` leads from each many-to-one
    relationship to its own other side. -/
structure IsToldApart (s : Schema) (source : String) (partner : Place → Place) : Prop where
  /-- Each key of a model to a table has brought about one many-to-one relationship, in field
      order, and this tells the key unless it is the only one. -/
  sides : ∀ i m, s.models[i]? = some m → ∀ t ∈ s.models,
    List.Forall₂ (fun f key => key.foreignKeys = m.columnsFor t f ∧
      ∃ edge ∈ Board.edgesAt source i, edge.field = f.name ∧ s.BroughtAbout source i edge key)
      (m.keysTo t) (m.sidesTo t)
  /-- No two of several keys to one table tell the same column. -/
  distinct : ∀ m ∈ s.models, ∀ t ∈ s.models, 2 ≤ (m.keysTo t).length →
    ((m.sidesTo t).map (·.foreignKeys)).Nodup
  /-- The partner stands on the target and tells what the many-to-one side tells. -/
  arePartners : ∀ p ∈ s.sidePlaces, s.ArePartners p (partner p)
  /-- An association that is not a partner tells no columns. -/
  unclaimed : ∀ q r, s.relationshipAt? q = some r → r.origin = .explicit →
    q ∉ partner '' s.sidePlaces → r.foreignKeys = none

end Schema

section Compiled

variable {source : String} {s : Schema} {m t : Model} {i j : Nat}

/-! ## Keys to one table -/

/-- The keys to a table are those whose model it is. -/
theorem keysTo_eq_filter (h : compile source = .ok s) (ht : t ∈ s.models) :
    m.keysTo t = (s.keyFields m).filter (s.keyModel? · == some t) := by
  rw [Model.keysTo, Model.foreignKeyFields, Schema.keyFields, List.filter_filter,
    List.filter_filter]
  refine List.filter_congr fun f _ => ?_
  cases hparts : f.foreignKeyParts? with
  | none => simp [Schema.keyModel?, hparts]
  | some parts =>
    obtain ⟨table, column⟩ := parts
    have hkey : f.isForeignKey = true := by
      obtain ⟨text, htext, -⟩ := Option.bind_eq_some_iff.mp hparts
      rw [Field.isForeignKey, htext, Option.isSome_some]
    have hmodel : s.keyModel? f = s.modelByTable? table := by
      rw [Schema.keyModel?, hparts]
      rfl
    -- The table leads to `t` if and only if it is called like it.
    have hnames : Text.sameAsciiLetters t.id table = true ↔ s.modelByTable? table = some t :=
      ⟨modelByTable?_of_compile h ht, fun hfound => by simpa using List.find?_some hfound⟩
    rw [hkey, hmodel, Bool.and_true, Option.any_some, Bool.eq_iff_iff, hnames, Bool.and_eq_true,
      beq_iff_eq]
    exact ⟨fun hfound => ⟨hfound, by rw [hfound]; rfl⟩, fun hfound => hfound.1⟩

/-- The keys to a table stand beside the edges that lead there. -/
theorem forall₂_keysTo_edgesAt (h : compile source = .ok s) (hm : s.models[i]? = some m)
    (ht : s.models[j]? = some t) :
    List.Forall₂ (fun f edge => edge.field = f.name) (m.keysTo t)
      ((Board.edgesAt source i).filter (·.target == j)) := by
  rw [keysTo_eq_filter h (List.mem_of_getElem? ht)]
  refine (List.rel_filter ?_ (forall₂_keyFields_edgesAt h hm)).imp fun _ _ hedge => hedge.1
  rintro f edge ⟨-, t', ht', htarget⟩
  simp only [ht', beq_iff_eq, Option.some.injEq]
  constructor
  · rintro rfl
    exact place_unique_of_compile h htarget ht rfl
  · rintro rfl
    exact Option.some.inj (htarget.symm.trans ht)

/-- An edge is shared if its owner has several keys to the table. -/
theorem shared_iff_of_keysTo (h : compile source = .ok s) (hm : s.models[i]? = some m)
    {edge : KeyEdge} (hedge : edge ∈ Board.edgesAt source i)
    (ht : s.models[edge.target]? = some t) :
    edge.shared = true ↔ ¬ (m.keysTo t).length < 2 := by
  have hlength := (forall₂_keysTo_edgesAt h hm ht).length_eq
  rw [← List.countP_eq_length_filter] at hlength
  have hpos : 0 < (Board.edgesAt source i).countP (·.target == edge.target) :=
    List.countP_pos_iff.mpr ⟨edge, hedge, beq_self_eq_true _⟩
  rw [Board.shared_iff hedge]
  omega

/-! ## Sides of these keys -/

/-- The many-to-one relationships with a table are those that follow a key to it. -/
theorem sidesTo_eq_filter (h : compile source = .ok s) (hm : s.models[i]? = some m) (t : Model) :
    m.sidesTo t = (m.relationships.filter (·.isKeyed)).filter (·.target == t.id) := by
  rw [Model.sidesTo, List.filter_filter]
  refine List.filter_congr fun r hr => ?_
  have hsame : r.isKeyed = (r.cardinality == .manyToOne) := by
    rw [Bool.eq_iff_iff, beq_iff_eq, isKeyed_iff_manyToOne h hm hr]
  rw [hsame, Bool.and_comm]

/-- Each edge of a table has brought about the relationship in its own place among those that follow
    a key. -/
theorem forall₂_edgesAt_keyed (h : compile source = .ok s) (hm : s.models[i]? = some m) :
    List.Forall₂
      (fun edge key => edge ∈ Board.edgesAt source i ∧ s.BroughtAbout source i edge key ∧
        key.foreignKeys = edge.foreignKeys ∧
        ∃ t, s.models[edge.target]? = some t ∧ key.target = t.id)
      (Board.edgesAt source i) (m.relationships.filter (·.isKeyed)) := by
  refine List.forall₂_iff_get.mpr ⟨(length_keyed_eq h hm).symm, fun p hp hp' => ?_⟩
  obtain ⟨t, key, ht, hkey, hbrought, -, htarget, hcolumns⟩ :=
    exists_key_of_edge h hm (List.getElem?_eq_getElem hp)
  have hget := (List.getElem?_eq_some_iff.mp hkey).2
  rw [List.get_eq_getElem, List.get_eq_getElem, hget]
  exact ⟨List.getElem_mem hp, hbrought, hcolumns, t, ht, htarget⟩

/-- Each key to a table has brought about one many-to-one relationship with it, in field order,
    which tells the key unless it is the only one. -/
theorem forall₂_keysTo_sidesTo (h : compile source = .ok s) (hm : s.models[i]? = some m)
    (ht : t ∈ s.models) :
    List.Forall₂ (fun f key => key.foreignKeys = m.columnsFor t f ∧
      ∃ edge ∈ Board.edgesAt source i, edge.field = f.name ∧ s.BroughtAbout source i edge key)
      (m.keysTo t) (m.sidesTo t) := by
  have hsides := (forall₂_keyFields_edgesAt h hm).comp (forall₂_edgesAt_keyed h hm)
  rw [keysTo_eq_filter h ht, sidesTo_eq_filter h hm]
  -- A key and its side lead to the same table, so both are kept or none of them.
  have hkept := List.rel_filter (p := (s.keyModel? · == some t)) (q := (·.target == t.id)) ?_ hsides
  · have hkeys : ∀ f ∈ (s.keyFields m).filter (s.keyModel? · == some t), s.keyModel? f = some t :=
      fun f hf => beq_iff_eq.mp (List.mem_filter.mp hf).2
    refine hkept.imp_of_mem_left fun f hf key hside => ?_
    obtain ⟨edge, ⟨hfield, t', ht', htarget⟩, hedge, hbrought, hcolumns, -⟩ := hside
    obtain rfl : t' = t := Option.some.inj (ht'.symm.trans (hkeys f hf))
    refine ⟨?_, edge, hedge, hfield, hbrought⟩
    have hshared := shared_iff_of_keysTo h hm hedge htarget
    rw [hcolumns, KeyEdge.foreignKeys, Model.columnsFor, hfield]
    by_cases hfew : (m.keysTo t').length < 2
    · rw [if_pos hfew, if_neg (fun hedge => hshared.mp hedge hfew)]
    · rw [if_neg hfew, if_pos (hshared.mpr hfew)]
  · rintro f key ⟨edge, ⟨-, t', ht', htarget⟩, -, -, -, t'', ht'', hid⟩
    obtain rfl : t' = t'' := Option.some.inj (htarget.symm.trans ht'')
    simp only [ht', hid, beq_iff_eq, Option.some.injEq]
    constructor
    · rintro rfl
      rfl
    · exact model_unique_of_compile h (List.mem_of_getElem? htarget) ht

/-- Several keys to one table tell different columns if the fields of their owner have different
    names. -/
theorem nodup_foreignKeys_sidesTo (h : compile source = .ok s) (hm : m ∈ s.models)
    (ht : t ∈ s.models) (hnames : (m.fields.map (·.name)).Nodup)
    (hseveral : 2 ≤ (m.keysTo t).length) : ((m.sidesTo t).map (·.foreignKeys)).Nodup := by
  obtain ⟨i, hi⟩ := List.mem_iff_getElem?.mp hm
  have hcolumns : (m.sidesTo t).map (·.foreignKeys) =
      ((m.keysTo t).map (·.name)).map fun name => some [name] := by
    rw [List.map_map, ← List.forall₂_eq_eq_eq, List.forall₂_map_left_iff,
      List.forall₂_map_right_iff]
    refine (forall₂_keysTo_sidesTo h hi ht).flip.imp fun key f hside => ?_
    rw [hside.1, Model.columnsFor, if_neg (by omega)]
    rfl
  have hkeys : (m.keysTo t).Sublist m.fields :=
    List.filter_sublist.trans List.filter_sublist
  rw [hcolumns]
  exact (hnames.sublist (hkeys.map _)).map fun _ _ heq => by simpa using heq

/-- The many-to-one relationships are those that follow a key. -/
theorem sidePlaces_eq (h : compile source = .ok s) : s.sidePlaces = s.keyedPlaces := by
  ext p
  refine exists_congr fun r => and_congr_right fun hr => ?_
  obtain ⟨m, hm, hposition⟩ := Option.bind_eq_some_iff.mp hr
  rw [← isKeyed_iff_manyToOne h hm (List.mem_of_getElem? hposition), Relationship.isKeyed,
    beq_iff_eq]

/-- Keys to one table are told apart: where a model has several of them, the relationship of each
    names its column and so does its partner, and no others name any. -/
theorem exists_isToldApart (h : compile source = .ok s)
    (hnames : ∀ m ∈ s.models, (m.fields.map (·.name)).Nodup) :
    ∃ partner, s.IsToldApart source partner := by
  have hkept := Board.kept_bondsOf source
  refine ⟨Board.partnerIn (Board.bondsOf source), ?_⟩
  constructor
  case sides => exact fun i m hm t ht => forall₂_keysTo_sidesTo h hm ht
  case distinct => exact fun m hm t ht => nodup_foreignKeys_sidesTo h hm ht (hnames m hm)
  case arePartners =>
    intro p hp
    rw [sidePlaces_eq h] at hp
    obtain ⟨b, hb, rfl⟩ := exists_bond_of_mem_keyedPlaces h hp
    rw [hkept.partnerIn_near hb]
    exact arePartners_of_mem_bondsOf h hb
  case unclaimed =>
    intro q r hr horigin hq
    rw [sidePlaces_eq h, mem_image_partnerIn h] at hq
    rcases relationshipAt?_cases h hr with ⟨hdeclared, -⟩ | ⟨_, -, -, -, hkeyed⟩ | ⟨b, hb, hfar, -⟩
    · obtain ⟨_, _, -, -, -, -, hnone⟩ := hdeclared
      exact hnone
    · rw [horigin] at hkeyed
      cases hkeyed
    · exact absurd ⟨b, hb, hfar⟩ hq

end Compiled

/-- Ports with two hubs among themselves, one of which an association describes, legs that start at
    a port, and an association that no key claims. -/
def hubsAndLegs : String :=
  "table Port \x7b
id Int [pk]
hub_id Int [ref: > Port.id]
depot_id Int [ref: > PORT.id, as: \"depot\"]
feeders Port[] [back_populates: \"depot\"]
stops Leg[] [back_populates: \"stop\"]
visits Leg[] [back_populates: \"visit\"]
\x7d
table Leg \x7b
id Int [pk]
stop_id Int [ref: > Port.id]
\x7d"

theorem exists_isToldApart_hubsAndLegs :
    compile hubsAndLegs = .ok (.ofChecked hubsAndLegs) ∧
      (∀ m ∈ (Schema.ofChecked hubsAndLegs).models, (m.fields.map (·.name)).Nodup) ∧
      ((Schema.ofChecked hubsAndLegs).models.map fun m =>
        (Schema.ofChecked hubsAndLegs).models.map fun t => (m.keysTo t).length) =
          [[2, 0], [1, 0]] ∧
      ∃ partner, (Schema.ofChecked hubsAndLegs).IsToldApart hubsAndLegs partner := by
  obtain ⟨hchecked, hnames, hkeys⟩ : checkSource hubsAndLegs = .ok () ∧
      (∀ m ∈ (Schema.ofChecked hubsAndLegs).models, (m.fields.map (·.name)).Nodup) ∧
      ((Schema.ofChecked hubsAndLegs).models.map fun m =>
        (Schema.ofChecked hubsAndLegs).models.map fun t => (m.keysTo t).length) =
          [[2, 0], [1, 0]] := by
    decide +kernel
  have hcompile := compile_eq_ok_iff.mpr ⟨hchecked, rfl⟩
  exact ⟨hcompile, hnames, hkeys, exists_isToldApart hcompile hnames⟩

end SchemaLang
