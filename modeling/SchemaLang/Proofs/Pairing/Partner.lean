import Mathlib.Data.Set.Function
import SchemaLang.Proofs.Pairing.Keys

/-!
# Partners

In a compiled schema every relationship that follows a key has a partner on the table that the key
references, and no two have the same one. Associations that are nobody's partner are left as they
were declared.

## Key results

- `relationshipAt?_cases`: what a relationship of a compiled schema can be
- `arePartners_of_mem_bondsOf`: the two places of a bond hold the two sides of a key
- `exists_pairing`: the map from keys to their partners
-/

namespace SchemaLang

/-! ## The two sides of a key -/

/-- `key` on the model `m` is the many-to-one side, and `r` on the model `t` the one-to-many side,
    of one foreign key. -/
structure KeySides (m t : Model) (key r : Relationship) : Prop where
  manyToOne : key.cardinality = .manyToOne
  oneToMany : r.cardinality = .oneToMany
  target : key.target = t.id
  owner : r.target = m.id
  back : r.backPopulates = key.name
  forth : key.backPopulates = r.name
  columns : r.foreignKeys = key.foreignKeys

namespace Schema

/-- The places of the relationships that follow a key. -/
def keyedPlaces (s : Schema) : Set Place :=
  {p | ∃ r, s.relationshipAt? p = some r ∧ r.origin = .foreignKey}

/-- The two places hold the many-to-one and the one-to-many side of a key. -/
def ArePartners (s : Schema) (p q : Place) : Prop :=
  ∃ m t key r, s.models[p.table]? = some m ∧ m.relationships[p.position]? = some key ∧
    s.models[q.table]? = some t ∧ t.relationships[q.position]? = some r ∧ KeySides m t key r

/-- The relationship is what the association of the source in that place declares: it is not paired
    with a key. -/
def AsDeclared (source : String) (p : Place) (r : Relationship) : Prop :=
  ∃ d a, (TableDraft.ofSource source)[p.table]? = some d ∧
    (d.associations.filter (·.annotated))[p.position]? = some a ∧ r.name = a.fieldName ∧
    r.backPopulates = a.backPopulates.getD "" ∧ r.foreignKeys = none

/-- The map leads from each relationship that follows a key to its own other side. -/
structure IsPairing (s : Schema) (source : String) (partner : Place → Place) : Prop where
  injOn : Set.InjOn partner s.keyedPlaces
  arePartners : ∀ p ∈ s.keyedPlaces, s.ArePartners p (partner p)
  /-- What keys bring about on the tables they reference are partners. -/
  inverse : ∀ q r, s.relationshipAt? q = some r → r.origin = .inverse →
    q ∈ partner '' s.keyedPlaces
  /-- An association that is not a partner is left alone. -/
  explicit : ∀ q r, s.relationshipAt? q = some r → r.origin = .explicit →
    q ∉ partner '' s.keyedPlaces → AsDeclared source q r
  /-- Only relationships that follow a key are many-to-one. -/
  manyToOne_iff : ∀ p r, s.relationshipAt? p = some r →
    (r.cardinality = .manyToOne ↔ r.origin = .foreignKey)
  /-- Each foreign key with a declared table has brought about one of them, in field order. -/
  keys : ∀ m ∈ s.models, (m.relationships.filter (·.isKeyed)).map (·.target) =
    (m.fields.filterMap s.keyModel?).map (·.id)

end Schema

/-! ## Bonds of a compiled schema -/

section Compiled

variable {source : String} {s : Schema}

/-- What a relationship of a compiled schema can be: an association that is not paired, the
    many-to-one side of a bond or the one-to-many side of one. -/
theorem relationshipAt?_cases (h : compile source = .ok s) {p : Place} {r : Relationship}
    (hr : s.relationshipAt? p = some r) :
    (Schema.AsDeclared source p r ∧ r.cardinality = .oneToMany ∧ r.origin = .explicit ∧
        p ∉ (Board.bondsOf source).flatMap (·.places)) ∨
      (∃ b ∈ Board.bondsOf source, p = b.near ∧ r.cardinality = .manyToOne ∧
        r.origin = .foreignKey) ∨
      ∃ b ∈ Board.bondsOf source, p = b.far ∧ r.cardinality = .oneToMany ∧
        r.origin ≠ .foreignKey := by
  rw [relationshipAt?_compile h, Option.map_eq_some_iff] at hr
  obtain ⟨slot, hslot, rfl⟩ := hr
  rcases (Board.kept_bondsOf source).side_cases (Board.allDeclared_declaredOf source) hslot with
    ⟨hdeclared, hp⟩ | hpaired
  · obtain ⟨d, a, hd, ha, hname, hback, hkeys, -, hcardinality, horigin⟩ :=
      Board.slotAt?_declaredOf hdeclared
    exact .inl ⟨⟨d, a, hd, ha, hname, hback, hkeys⟩, hcardinality, horigin, hp⟩
  · exact .inr hpaired

/-- A compiled model stands in the place of its board. -/
theorem getElem?_models_of_id (h : compile source = .ok s) {i : Nat} {id : String}
    (hid : ((Board.settledOf source).map (·.id))[i]? = some id) :
    ∃ m, s.models[i]? = some m ∧ m.id = id := by
  rwa [← map_id_models h, List.getElem?_map, Option.map_eq_some_iff] at hid

/-- The two places of a bond hold the two sides of a key. -/
theorem arePartners_of_mem_bondsOf (h : compile source = .ok s) {b : Board.Bond}
    (hb : b ∈ Board.bondsOf source) : s.ArePartners b.near b.far := by
  obtain ⟨ownerId, targetId, partner, howner, htarget, hpartner, hfar, hnear⟩ :=
    (Board.kept_bondsOf source).holds b hb
  obtain ⟨hpartnerTarget, hcardinality, -⟩ :=
    hpartner.facts (Board.allDeclared_declaredOf source)
  obtain ⟨m, hm, rfl⟩ := getElem?_models_of_id h howner
  obtain ⟨t, ht, rfl⟩ := getElem?_models_of_id h htarget
  have hkey := relationshipAt?_compile h b.near
  have hr := relationshipAt?_compile h b.far
  rw [Schema.relationshipAt?, hm, hnear] at hkey
  rw [Schema.relationshipAt?, ht, hfar] at hr
  refine ⟨m, t, partner.reverse t.id, partner, hm, hkey, ht, hr, ?_⟩
  constructor
  case oneToMany => exact hcardinality
  case owner => exact hpartnerTarget
  -- The rest is how the many-to-one side is made of its partner.
  all_goals rfl

/-- The near place of a bond holds a relationship that follows a key. -/
theorem near_mem_keyedPlaces (h : compile source = .ok s) {b : Board.Bond}
    (hb : b ∈ Board.bondsOf source) : b.near ∈ s.keyedPlaces := by
  obtain ⟨_, _, partner, -, -, -, -, hnear⟩ := (Board.kept_bondsOf source).holds b hb
  have hkey := relationshipAt?_compile h b.near
  rw [hnear, Option.map_some] at hkey
  exact ⟨_, hkey, rfl⟩

/-- A relationship that follows a key stands in the near place of a bond. -/
theorem exists_bond_of_mem_keyedPlaces (h : compile source = .ok s) {p : Place}
    (hp : p ∈ s.keyedPlaces) : ∃ b ∈ Board.bondsOf source, p = b.near := by
  obtain ⟨r, hr, horigin⟩ := hp
  rcases relationshipAt?_cases h hr with ⟨-, -, hexplicit, -⟩ | ⟨b, hb, hnear, -⟩ |
    ⟨b, -, -, -, hother⟩
  · rw [horigin] at hexplicit
    exact nomatch hexplicit
  · exact ⟨b, hb, hnear⟩
  · exact absurd horigin hother

end Compiled

/-! ## The map -/

/-- The far place of the bond whose near place is given. -/
def Board.partnerIn (bonds : List Board.Bond) (p : Place) : Place :=
  match bonds.find? (·.near == p) with
  | some b => b.far
  | none => p

theorem Board.Kept.partnerIn_near {declared boards : List Board} {bonds : List Board.Bond}
    (h : Board.Kept declared boards bonds) {b : Board.Bond} (hb : b ∈ bonds) :
    Board.partnerIn bonds b.near = b.far := by
  rw [Board.partnerIn]
  cases hfind : bonds.find? (·.near == b.near) with
  | none =>
    have := List.find?_eq_none.mp hfind b hb
    simp at this
  | some b' =>
    have hnear : b'.near = b.near := by simpa using List.find?_some hfind
    have heq : b' = b := h.bond_unique (List.mem_of_find?_eq_some hfind) hb (p := b.near)
      (by simp [Board.Bond.places, hnear]) (by simp [Board.Bond.places])
    rw [heq]

/-- The partners of the relationships that follow a key are the far places of the bonds. -/
theorem mem_image_partnerIn {source : String} {s : Schema} (h : compile source = .ok s)
    {q : Place} :
    q ∈ Board.partnerIn (Board.bondsOf source) '' s.keyedPlaces ↔
      ∃ b ∈ Board.bondsOf source, q = b.far := by
  have hkept := Board.kept_bondsOf source
  constructor
  · rintro ⟨p, hp, rfl⟩
    obtain ⟨b, hb, rfl⟩ := exists_bond_of_mem_keyedPlaces h hp
    exact ⟨b, hb, hkept.partnerIn_near hb⟩
  · rintro ⟨b, hb, rfl⟩
    exact ⟨b.near, near_mem_keyedPlaces h hb, hkept.partnerIn_near hb⟩

/-- Every relationship that follows a key has a partner of its own, and what is nobody's partner is
    left as it was declared. -/
theorem exists_pairing {source : String} {s : Schema} (h : compile source = .ok s) :
    ∃ partner, s.IsPairing source partner := by
  have hkept := Board.kept_bondsOf source
  refine ⟨Board.partnerIn (Board.bondsOf source), ?_⟩
  constructor
  case injOn =>
    intro p hp q hq heq
    obtain ⟨b, hb, rfl⟩ := exists_bond_of_mem_keyedPlaces h hp
    obtain ⟨b', hb', rfl⟩ := exists_bond_of_mem_keyedPlaces h hq
    rw [hkept.partnerIn_near hb, hkept.partnerIn_near hb'] at heq
    -- Two bonds with one far place are one bond.
    have hbond : b = b' := hkept.bond_unique hb hb' (p := b.far) (by simp [Board.Bond.places])
      (by simp [Board.Bond.places, heq])
    rw [hbond]
  case arePartners =>
    intro p hp
    obtain ⟨b, hb, rfl⟩ := exists_bond_of_mem_keyedPlaces h hp
    rw [hkept.partnerIn_near hb]
    exact arePartners_of_mem_bondsOf h hb
  case inverse =>
    intro q r hr horigin
    rw [mem_image_partnerIn h]
    rcases relationshipAt?_cases h hr with ⟨-, -, hexplicit, -⟩ | ⟨_, -, -, -, hkeyed⟩ |
      ⟨b, hb, hfar, -⟩
    · rw [horigin] at hexplicit
      cases hexplicit
    · rw [horigin] at hkeyed
      cases hkeyed
    · exact ⟨b, hb, hfar⟩
  case explicit =>
    intro q r hr horigin hq
    rw [mem_image_partnerIn h] at hq
    rcases relationshipAt?_cases h hr with ⟨hdeclared, -⟩ | ⟨_, -, -, -, hkeyed⟩ | ⟨b, hb, hfar, -⟩
    · exact hdeclared
    · rw [horigin] at hkeyed
      cases hkeyed
    · exact absurd ⟨b, hb, hfar⟩ hq
  case manyToOne_iff =>
    intro p r hr
    rcases relationshipAt?_cases h hr with ⟨-, hcardinality, horigin, -⟩ |
      ⟨_, -, -, hcardinality, horigin⟩ | ⟨_, -, -, hcardinality, horigin⟩
    · simp [hcardinality, horigin]
    · simp [hcardinality, horigin]
    · simp [hcardinality, horigin]
  case keys => exact fun m hm => map_target_keyed_eq h hm

/-- Two keys to one table, with an association there that neither of them claims. -/
def legsBetweenPorts : String :=
  "table Port \x7b
legs Leg[] [back_populates: \"at\"]
\x7d
table Leg \x7b
from Int [ref: > Port.id]
to Int [ref: > Port.id]
\x7d"

theorem exists_pairing_legsBetweenPorts :
    compile legsBetweenPorts = .ok (.ofChecked legsBetweenPorts) ∧
      ∃ partner, (Schema.ofChecked legsBetweenPorts).IsPairing legsBetweenPorts partner := by
  have hcompile : compile legsBetweenPorts = .ok (.ofChecked legsBetweenPorts) :=
    compile_eq_ok_iff.mpr ⟨by decide +kernel, rfl⟩
  exact ⟨hcompile, exists_pairing hcompile⟩

end SchemaLang
