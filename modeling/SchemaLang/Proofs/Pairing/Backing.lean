import SchemaLang.Proofs.Pairing.Partner
import SchemaLang.Proofs.Review.Checks

/-!
# One-to-many relationships and their keys

The review looks at names and targets only: it accepts a relationship if another one leads back to
it. For a relationship that a key has brought about or claimed, the other one is that key. Two
associations that no key claims can lead back to each other too, and one to itself, and then nothing
is reported.

## Key results

- `association_or_side_of_compile`: a relationship is an association or a side of a key
- `isBacked_iff_not_isMirrored`: associations that lead back to each other are the only one-to-many
  relationships of a valid schema that no key stands behind
- `isValid_hubs`: there are such schemas
-/

namespace SchemaLang

namespace Schema

/-- The relationship `r` of `m` is the other side of a foreign key. -/
def IsBacked (s : Schema) (m : Model) (r : Relationship) : Prop :=
  ∃ t ∈ s.models, ∃ key ∈ t.relationships, key.origin = .foreignKey ∧ KeySides t m key r

/-- The relationship `r` of `m` is an association, and so is the one that leads back to it. -/
def IsMirrored (s : Schema) (m : Model) (r : Relationship) : Prop :=
  r.origin = .explicit ∧ ∃ t ∈ s.models, ∃ q ∈ t.relationships, q.origin = .explicit ∧
    r.target = t.id ∧ q.target = m.id ∧ r.backPopulates = q.name ∧ q.backPopulates = r.name

instance (s : Schema) (m : Model) (r : Relationship) : Decidable (s.IsMirrored m r) :=
  inferInstanceAs (Decidable (_ ∧ ∃ t ∈ s.models, ∃ q ∈ t.relationships, _ ∧ _ ∧ _ ∧ _ ∧ _))

end Schema

section Compiled

variable {source : String} {s : Schema} {m : Model} {r : Relationship}

/-- A relationship is an association, or follows a key, or is the other side of one. -/
theorem association_or_side_of_compile (h : compile source = .ok s) (hm : m ∈ s.models)
    (hr : r ∈ m.relationships) :
    (r.origin = .explicit ∧ r.cardinality = .oneToMany) ∨
      (r.origin = .foreignKey ∧ ∃ t ∈ s.models, ∃ q ∈ t.relationships, KeySides m t r q) ∨
      s.IsBacked m r := by
  obtain ⟨i, hi⟩ := List.mem_iff_getElem?.mp hm
  obtain ⟨j, hj⟩ := List.mem_iff_getElem?.mp hr
  have hplace : s.relationshipAt? ⟨i, j⟩ = some r := by
    rw [Schema.relationshipAt?, hi, Option.bind_some, hj]
  -- The bond that the place belongs to knows the other side.
  rcases relationshipAt?_cases h hplace with ⟨-, hcardinality, horigin, -⟩ |
    ⟨b, hb, hnear, -, horigin⟩ | ⟨b, hb, hfar, -⟩
  · exact .inl ⟨horigin, hcardinality⟩
  · obtain ⟨owner, t, key, q, howner, hkey, ht, hq, hsides⟩ := arePartners_of_mem_bondsOf h hb
    rw [← hnear, hi, Option.some.injEq] at howner
    rw [← hnear, ← howner, hj, Option.some.injEq] at hkey
    subst howner hkey
    exact .inr (.inl ⟨horigin, t, List.mem_of_getElem? ht, q, List.mem_of_getElem? hq, hsides⟩)
  · obtain ⟨t, target, key, q, ht, hkey, htarget, hq, hsides⟩ := arePartners_of_mem_bondsOf h hb
    rw [← hfar, hi, Option.some.injEq] at htarget
    rw [← hfar, ← htarget, hj, Option.some.injEq] at hq
    subst htarget hq
    have horigin : key.origin = .foreignKey := by
      obtain ⟨k, hk, hkeyed⟩ := near_mem_keyedPlaces h hb
      rw [Schema.relationshipAt?, ht, Option.bind_some, hkey, Option.some.injEq] at hk
      rw [hk, hkeyed]
    exact .inr (.inr ⟨t, List.mem_of_getElem? ht, key, List.mem_of_getElem? hkey, horigin, hsides⟩)

/-- What leads back to an association of a valid schema is another association, or the key that
    claims it. -/
theorem isMirrored_or_isBacked (h : compile source = .ok s) (hvalid : s.isValid = true)
    (hm : m ∈ s.models) (hr : r ∈ m.relationships) (horigin : r.origin = .explicit)
    (hcardinality : r.cardinality = .oneToMany) : s.IsMirrored m r ∨ s.IsBacked m r := by
  obtain ⟨t, q, ht, hq, htarget, hback⟩ := Schema.exists_inverse_of_isValid hvalid hm hr
  have hid : t.id = r.target := by simpa using List.find?_some ht
  have hname : q.name = r.backPopulates := by simpa using List.find?_some hq
  have hmem : t ∈ s.models := List.mem_of_find?_eq_some ht
  have hqmem : q ∈ t.relationships := List.mem_of_find?_eq_some hq
  rcases association_or_side_of_compile h hmem hqmem with ⟨hexplicit, -⟩ |
    ⟨hkeyed, m', hm', r', hr', hsides⟩ | ⟨m', hm', key, hkey, -, hsides⟩
  · exact .inl ⟨horigin, t, hmem, q, hqmem, hexplicit, hid.symm, htarget, hname.symm, hback⟩
  · -- The other side of the key is the association itself: one model, one name.
    obtain rfl : m = m' := model_unique_of_compile h hm hm' (htarget.symm.trans hsides.target)
    obtain rfl : r = r' := Schema.relationship_ext_of_isValid hvalid hm hr hr'
      (hback.symm.trans hsides.forth)
    exact .inr ⟨t, hmem, q, hqmem, hkeyed, hsides⟩
  · -- The association would be the many-to-one side of a key.
    obtain rfl : m = m' := model_unique_of_compile h hm hm' (htarget.symm.trans hsides.owner)
    obtain rfl : r = key := Schema.relationship_ext_of_isValid hvalid hm hr hkey
      (hback.symm.trans hsides.back)
    rw [hsides.manyToOne] at hcardinality
    exact nomatch hcardinality

/-- A one-to-many relationship of a valid schema is the other side of a foreign key, unless it is one
    of two associations that lead back to each other. -/
theorem isBacked_iff_not_isMirrored (h : compile source = .ok s) (hvalid : s.isValid = true)
    (hm : m ∈ s.models) (hr : r ∈ m.relationships) (hcardinality : r.cardinality = .oneToMany) :
    s.IsBacked m r ↔ ¬ s.IsMirrored m r := by
  constructor
  · rintro ⟨t, ht, key, hkey, horigin, hsides⟩ ⟨-, t', ht', q, hq, hexplicit, htarget, -, hback, -⟩
    -- Both stand on one model under one name.
    obtain rfl : t = t' := model_unique_of_compile h ht ht' (hsides.owner.symm.trans htarget)
    obtain rfl : key = q := Schema.relationship_ext_of_isValid hvalid ht hkey hq
      (hsides.back.symm.trans hback)
    rw [horigin] at hexplicit
    exact nomatch hexplicit
  · intro hmirrored
    rcases association_or_side_of_compile h hm hr with ⟨horigin, -⟩ | ⟨-, t, -, q, -, hsides⟩ |
      hbacked
    · exact (isMirrored_or_isBacked h hvalid hm hr horigin hcardinality).resolve_left hmirrored
    · rw [hsides.manyToOne] at hcardinality
      exact nomatch hcardinality
    · exact hbacked

end Compiled

/-- A table that references itself by a key. -/
def hubKey : String :=
  "table Port \x7b
id Int [pk]
hub_id Int [ref: > Port.id]
\x7d"

/-- The inverse of the key is backed by it. -/
theorem isBacked_hubKey :
    (Schema.ofChecked hubKey).isValid = true ∧ ∃ m ∈ (Schema.ofChecked hubKey).models,
      ∃ r ∈ m.relationships, r.cardinality = .oneToMany ∧ (Schema.ofChecked hubKey).IsBacked m r := by
  have hcompile : compile hubKey = .ok (.ofChecked hubKey) :=
    compile_eq_ok_iff.mpr ⟨by decide +kernel, rfl⟩
  have hvalid : (Schema.ofChecked hubKey).isValid = true := by decide +kernel
  obtain ⟨m, hm, r, hr, hcardinality, hmirrored⟩ : ∃ m ∈ (Schema.ofChecked hubKey).models,
      ∃ r ∈ m.relationships, r.cardinality = .oneToMany ∧
        ¬ (Schema.ofChecked hubKey).IsMirrored m r := by decide +kernel
  exact ⟨hvalid, m, hm, r, hr, hcardinality,
    (isBacked_iff_not_isMirrored hcompile hvalid hm hr hcardinality).mpr hmirrored⟩

/-- A table without keys, with an association to itself that names itself as its other side. -/
def hubs : String :=
  "table Port \x7b
id Int [pk]
hubs Port[] [back_populates: \"hubs\"]
\x7d"

/-- Nothing is reported of an association that leads back to itself, though no key stands behind
    it. -/
theorem isValid_hubs :
    compile hubs = .ok (.ofChecked hubs) ∧ (Schema.ofChecked hubs).isValid = true ∧
      (∃ m ∈ (Schema.ofChecked hubs).models, ∃ r ∈ m.relationships, r.cardinality = .oneToMany) ∧
      ∀ m ∈ (Schema.ofChecked hubs).models, ∀ r ∈ m.relationships, r.origin ≠ .foreignKey :=
  ⟨compile_eq_ok_iff.mpr ⟨by decide +kernel, rfl⟩, by decide +kernel, by decide +kernel,
    by decide +kernel⟩

end SchemaLang
