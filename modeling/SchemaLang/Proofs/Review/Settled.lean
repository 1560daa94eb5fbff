import SchemaLang.Proofs.Pairing.Partner
import SchemaLang.Proofs.Review.Checks

/-!
# What the review finds of settled relationships

The review looks the other side of a relationship up by identifier and name, and knows nothing of
the boards on which the sides were paired. Where every association has been claimed and names tell
relationships apart, it finds the partner that settling has left there, and has nothing to report:
neither a target that is missing nor a pair that does not match, nor two relationships with one
other side.

## Key results

- `isAnswered_of_allClaimed`: every relationship is a side of a key
- `pairViolations_eq_nil_of_isAnswered`: the look-ups of the review lead to the other side
- `nodup_backReferences_of_isAnswered`: no two relationships have one other side
- `settled_violations_eq_nil`: the three checks report nothing
-/

namespace SchemaLang

/-- Every association has been claimed by a key. -/
def Board.AllClaimed (boards : List Board) : Prop :=
  ∀ b ∈ boards, ∀ slot ∈ b.explicit, slot.claimed = true

instance (boards : List Board) : Decidable (Board.AllClaimed boards) :=
  inferInstanceAs (Decidable (∀ b ∈ boards, ∀ slot ∈ b.explicit, _))

/-- The relationship `r` of `m` leads to a model with a relationship that leads back, and each of
    the two names the other. -/
def Schema.IsAnswered (s : Schema) (m : Model) (r : Relationship) : Prop :=
  ∃ t ∈ s.models, ∃ q ∈ t.relationships, r.target = t.id ∧ q.target = m.id ∧
    r.backPopulates = q.name ∧ q.backPopulates = r.name

/-! ## Sides of keys -/

/-- Where every association has been claimed, every slot of the boards is taken. -/
theorem Board.claimed_of_allClaimed {boards : List Board} (h : AllClaimed boards) {p : Place}
    {slot : Slot} (hslot : slotAt? boards p = some slot) : slot.claimed = true := by
  obtain ⟨b, hb, hslot⟩ := Option.bind_eq_some_iff.mp hslot
  rcases List.mem_append.mp (List.mem_of_getElem? hslot) with hexplicit | hsynthesized
  · exact h b (List.mem_of_getElem? hb) slot hexplicit
  · obtain ⟨r, -, rfl⟩ := List.mem_map.mp hsynthesized
    rfl

section Compiled

variable {source : String} {s : Schema} {m : Model} {r : Relationship}

/-- A side of a key is answered by the other side. -/
theorem isAnswered_of_mem_places (h : compile source = .ok s) {b : Board.Bond}
    (hb : b ∈ Board.bondsOf source) {p : Place} (hp : p ∈ b.places)
    (hm : s.models[p.table]? = some m) (hr : m.relationships[p.position]? = some r) :
    s.IsAnswered m r := by
  obtain ⟨o, t, key, q, ho, hkey, ht, hq, hsides⟩ := arePartners_of_mem_bondsOf h hb
  rcases List.mem_pair.mp hp with rfl | rfl
  · obtain rfl := Option.some.inj (hm.symm.trans ho)
    obtain rfl := Option.some.inj (hr.symm.trans hkey)
    exact ⟨t, List.mem_of_getElem? ht, q, List.mem_of_getElem? hq, hsides.target, hsides.owner,
      hsides.forth, hsides.back⟩
  · obtain rfl := Option.some.inj (hm.symm.trans ht)
    obtain rfl := Option.some.inj (hr.symm.trans hq)
    exact ⟨o, List.mem_of_getElem? ho, key, List.mem_of_getElem? hkey, hsides.owner,
      hsides.target, hsides.back, hsides.forth⟩

/-- Where every association has been claimed, every relationship is answered. -/
theorem isAnswered_of_allClaimed (h : compile source = .ok s)
    (hclaimed : Board.AllClaimed (Board.settledOf source)) (hm : m ∈ s.models)
    (hr : r ∈ m.relationships) : s.IsAnswered m r := by
  obtain ⟨i, hi⟩ := List.mem_iff_getElem?.mp hm
  obtain ⟨j, hj⟩ := List.mem_iff_getElem?.mp hr
  have hplace := relationshipAt?_compile h ⟨i, j⟩
  rw [Schema.relationshipAt?, hi, Option.bind_some, hj] at hplace
  obtain ⟨slot, hslot, -⟩ := Option.map_eq_some_iff.mp hplace.symm
  obtain ⟨b, hb, hp⟩ := (Board.kept_bondsOf source).taken _ slot hslot
    (Board.claimed_of_allClaimed hclaimed hslot)
  exact isAnswered_of_mem_places h hb hp hi hj

/-! ## The look-ups of the review -/

/-- The review finds the other side of a relationship that is answered. -/
theorem pairViolations_eq_nil_of_isAnswered (h : compile source = .ok s)
    (hnames : ∀ m ∈ s.models, (m.relationships.map (·.name)).Nodup)
    (hnamed : ∀ m ∈ s.models, ∀ r ∈ m.relationships, r.name ≠ "") (hr : s.IsAnswered m r) :
    m.pairViolations s r = [] := by
  obtain ⟨t, ht, q, hq, htarget, howner, hforth, hback⟩ := hr
  rw [Model.pairViolations_eq_nil_iff (htarget ▸ model?_of_compile h ht), hforth]
  refine ⟨hnamed t ht q hq, q, ?_, howner, hback⟩
  exact List.find?_eq_some_of_unique hq (beq_self_eq_true _) fun q' hq' hname =>
    List.inj_on_of_nodup_map (hnames t ht) hq' hq (beq_iff_eq.mp hname)

/-- Two relationships of a model with one other side have one name, and are one. -/
theorem nodup_backReferences_of_isAnswered (h : compile source = .ok s)
    (hnames : ∀ m ∈ s.models, (m.relationships.map (·.name)).Nodup) (hm : m ∈ s.models)
    (hanswered : ∀ r ∈ m.relationships, s.IsAnswered m r) :
    (m.relationships.map fun r => (r.target, r.backPopulates)).Nodup := by
  refine (hnames m hm).of_map.map_on fun r hr r' hr' hsame => ?_
  obtain ⟨htarget, hback⟩ := Prod.mk.inj hsame
  obtain ⟨t, ht, q, hq, hrt, -, hrq, hqr⟩ := hanswered r hr
  obtain ⟨t', ht', q', hq', hrt', -, hrq', hqr'⟩ := hanswered r' hr'
  obtain rfl : t = t' := model_unique_of_compile h ht ht' (by rw [← hrt, htarget, hrt'])
  obtain rfl : q = q' := List.inj_on_of_nodup_map (hnames t ht) hq hq'
    (by rw [← hrq, hback, hrq'])
  exact List.inj_on_of_nodup_map (hnames m hm) hr hr' (by rw [← hqr, hqr'])

/-- Where names tell relationships apart, none of them is empty and every association has been
    claimed, nothing is reported of the targets, the back references and the pairs of the
    relationships of a compiled schema. -/
theorem settled_violations_eq_nil (h : compile source = .ok s)
    (hnames : ∀ m ∈ s.models, (m.relationships.map (·.name)).Nodup)
    (hnamed : ∀ m ∈ s.models, ∀ r ∈ m.relationships, r.name ≠ "")
    (hclaimed : Board.AllClaimed (Board.settledOf source)) :
    ∀ m ∈ s.models, m.targetViolations s = [] ∧ m.backReferenceViolations = [] ∧
      ∀ r ∈ m.relationships, m.pairViolations s r = [] := by
  intro m hm
  have hanswered : ∀ r ∈ m.relationships, s.IsAnswered m r :=
    fun r hr => isAnswered_of_allClaimed h hclaimed hm hr
  refine ⟨?_, ?_, fun r hr => pairViolations_eq_nil_of_isAnswered h hnames hnamed (hanswered r hr)⟩
  · rw [Model.targetViolations_eq_nil_iff]
    intro r hr
    obtain ⟨t, ht, -, -, htarget, -⟩ := hanswered r hr
    exact ⟨t, htarget ▸ model?_of_compile h ht⟩
  · rw [Model.backReferenceViolations_eq_nil_iff]
    exact (nodup_backReferences_of_isAnswered h hnames hm hanswered).sublist
      (List.filter_sublist.map _)

end Compiled

/-- A table that references itself, with an association for the other side, and one that references
    it twice, with an association for one of the two other sides. -/
def claimedPorts : String :=
  "table Port \x7b
id Int [pk]
hub_id Int [ref: > Port.id]
feeders Port[] [relationship: \"one-to-many\"]
legs Leg[] [back_populates: \"from\"]
\x7d
table Leg \x7b
id Int [pk]
from_id Int [ref: > Port.id]
to_id Int [ref: > Port.id]
\x7d"

theorem settled_violations_claimedPorts :
    (compile claimedPorts = .ok (.ofChecked claimedPorts) ∧
        (∀ m ∈ (Schema.ofChecked claimedPorts).models, (m.relationships.map (·.name)).Nodup) ∧
        (∀ m ∈ (Schema.ofChecked claimedPorts).models, ∀ r ∈ m.relationships, r.name ≠ "") ∧
        Board.AllClaimed (Board.settledOf claimedPorts)) ∧
      ∀ m ∈ (Schema.ofChecked claimedPorts).models,
        m.targetViolations (.ofChecked claimedPorts) = [] ∧ m.backReferenceViolations = [] ∧
          ∀ r ∈ m.relationships, m.pairViolations (.ofChecked claimedPorts) r = [] := by
  obtain ⟨hchecked, hnames, hnamed, hclaimed⟩ : checkSource claimedPorts = .ok () ∧
      (∀ m ∈ (Schema.ofChecked claimedPorts).models, (m.relationships.map (·.name)).Nodup) ∧
      (∀ m ∈ (Schema.ofChecked claimedPorts).models, ∀ r ∈ m.relationships, r.name ≠ "") ∧
      Board.AllClaimed (Board.settledOf claimedPorts) := by
    decide +kernel
  have hcompile : compile claimedPorts = .ok (.ofChecked claimedPorts) :=
    compile_eq_ok_iff.mpr ⟨hchecked, rfl⟩
  exact ⟨⟨hcompile, hnames, hnamed, hclaimed⟩,
    settled_violations_eq_nil hcompile hnames hnamed hclaimed⟩

end SchemaLang
