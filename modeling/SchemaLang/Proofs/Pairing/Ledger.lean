import Mathlib.Data.List.Forall2
import Mathlib.Data.List.Nodup
import SchemaLang.Proofs.Pairing.Slots

/-!
# The ledger of settled edges

While edges are settled one after the other, a ledger of their bonds is kept. The invariant `Kept`
says how it accounts for the boards: every place is either as it was declared or one side of exactly
one bond, and the two sides of a bond mirror each other.

## Key results

- `Kept.settleEdge`: one edge keeps the invariant
- `kept_ledger`: so does any row of edges
- `settleOwners_eq_settleAll`: owners with their edges are a row of edges
- `forall₂_keyed_settleAll`: each edge brings about one many-to-one relationship, in order
-/

namespace SchemaLang

/-- A key has brought the relationship about on the table that holds it. -/
def Relationship.isKeyed (r : Relationship) : Bool :=
  r.origin == .foreignKey

namespace Board

/-- Both places of a bond. -/
def Bond.places (b : Bond) : List Place :=
  [b.near, b.far]

/-! ## Runs -/

/-- Settles a row of edges, each with the place of its owner. -/
def settleAll (boards : List Board) (keys : List (Nat × KeyEdge)) : List Board :=
  keys.foldl (fun boards key => settleEdge key.1 boards key.2) boards

/-- The bonds of a row of edges that are settled one after the other. -/
def ledger (boards : List Board) : List (Nat × KeyEdge) → List Bond
  | [] => []
  | (owner, edge) :: rest =>
    (match boards[owner]?, boards[edge.target]? with
      | some o, some t => [bond owner o t edge]
      | _, _ => []) ++ ledger (settleEdge owner boards edge) rest

/-- The edges of the given owners as one row. -/
def keysOf (edges : List (List KeyEdge)) (owners : List Nat) : List (Nat × KeyEdge) :=
  owners.flatMap fun owner => (edges[owner]?.getD []).map (owner, ·)

/-- Settling owners settles the row of their edges. -/
theorem settleOwners_eq_settleAll (edges : List (List KeyEdge)) (owners : List Nat)
    (boards : List Board) :
    settleOwners edges owners boards = settleAll boards (keysOf edges owners) := by
  induction owners generalizing boards with
  | nil => rfl
  | cons owner rest ih =>
    have hkeys : keysOf edges (owner :: rest) =
        (edges[owner]?.getD []).map (owner, ·) ++ keysOf edges rest := List.flatMap_cons
    calc settleOwners edges (owner :: rest) boards
        = settleOwners edges rest (settleOwner edges boards owner) := rfl
      _ = settleAll (settleOwner edges boards owner) (keysOf edges rest) := ih _
      _ = settleAll boards (keysOf edges (owner :: rest)) := by
        rw [hkeys, settleAll, settleAll, List.foldl_append, List.foldl_map]
        rfl

/-- What an edge leaves alone on all boards, a row of edges does too. -/
theorem map_settleAll {α : Type} (view : Board → α)
    (hedge : ∀ owner boards edge, (settleEdge owner boards edge).map view = boards.map view)
    (boards : List Board) (keys : List (Nat × KeyEdge)) :
    (settleAll boards keys).map view = boards.map view := by
  induction keys generalizing boards with
  | nil => rfl
  | cons key rest ih => exact (ih _).trans (hedge _ _ _)

/-! ## The invariant -/

/-- The boards hold declared relationships only, and none of them is claimed. -/
def AllDeclared (boards : List Board) : Prop :=
  ∀ p slot, slotAt? boards p = some slot → slot.claimed = false ∧
    slot.relationship.cardinality = .oneToMany ∧ slot.relationship.origin = .explicit

/-- The relationship is what the bond makes of its far place: the declared one as the edge claims
    it, or the inverse. -/
def Bond.IsPartner (declared : List Board) (ownerId : String) (b : Bond) (r : Relationship) : Prop :=
  (∃ slot, slotAt? declared b.far = some slot ∧ slot.isFree ownerId = true ∧
      r = (slot.claim b.edge).relationship) ∨
    r = inverse ownerId b.edge

/-- The two places of a bond hold a partner and its reverse. -/
def Bond.Holds (declared boards : List Board) (b : Bond) : Prop :=
  ∃ ownerId targetId partner, (boards.map (·.id))[b.near.table]? = some ownerId ∧
    (boards.map (·.id))[b.far.table]? = some targetId ∧ b.IsPartner declared ownerId partner ∧
    slotAt? boards b.far = some (Slot.taken partner) ∧
    slotAt? boards b.near = some (Slot.taken (partner.reverse targetId))

/-- The ledger accounts for what has become of the declared boards. -/
structure Kept (declared boards : List Board) (bonds : List Bond) : Prop where
  ids : boards.map (·.id) = declared.map (·.id)
  /-- What is not taken is as it was declared. -/
  free : ∀ p slot, slotAt? boards p = some slot → slot.claimed = false →
    slotAt? declared p = some slot
  /-- What is taken is a side of a bond. -/
  taken : ∀ p slot, slotAt? boards p = some slot → slot.claimed = true →
    ∃ b ∈ bonds, p ∈ b.places
  holds : ∀ b ∈ bonds, b.Holds declared boards
  /-- No place is a side of two bonds, nor both sides of one. -/
  distinct : (bonds.flatMap Bond.places).Nodup

variable {declared boards : List Board} {bonds : List Bond}

/-- Before any edge is settled there are no bonds. -/
theorem Kept.start (h : AllDeclared declared) : Kept declared declared [] where
  ids := rfl
  free := fun _ _ hslot _ => hslot
  taken := fun p slot hslot htaken => by
    rw [(h p slot hslot).1] at htaken
    exact nomatch htaken
  holds := fun _ hb => nomatch hb
  distinct := List.nodup_nil

/-- Both places of a bond that holds are taken. -/
theorem Bond.Holds.taken {b : Bond} (h : b.Holds declared boards) {p : Place} (hp : p ∈ b.places) :
    ∃ r, slotAt? boards p = some (Slot.taken r) := by
  obtain ⟨_, _, partner, -, -, -, hfar, hnear⟩ := h
  rcases List.mem_pair.mp hp with rfl | rfl
  · exact ⟨_, hnear⟩
  · exact ⟨_, hfar⟩

/-- A bond holds on if its places and all identifiers stay as they are. -/
theorem Bond.Holds.of_eq {boards' : List Board} {b : Bond} (h : b.Holds declared boards)
    (hids : boards'.map (·.id) = boards.map (·.id))
    (hplaces : ∀ p ∈ b.places, slotAt? boards' p = slotAt? boards p) :
    b.Holds declared boards' := by
  obtain ⟨ownerId, targetId, partner, howner, htarget, hpartner, hfar, hnear⟩ := h
  refine ⟨ownerId, targetId, partner, ?_, ?_, hpartner, ?_, ?_⟩
  · rw [hids, howner]
  · rw [hids, htarget]
  · rw [hplaces _ (by simp [places]), hfar]
  · rw [hplaces _ (by simp [places]), hnear]

/-- A place is a side of one bond at most. -/
theorem Kept.bond_unique (h : Kept declared boards bonds) {b b' : Bond} (hb : b ∈ bonds)
    (hb' : b' ∈ bonds) {p : Place} (hp : p ∈ b.places) (hp' : p ∈ b'.places) : b = b' := by
  -- Different bonds have disjoint places, in whichever order they stand in the ledger.
  have hdisjoint := (List.nodup_flatMap.mp h.distinct).2
  exact List.Pairwise.forall_of_forall_of_flip
    (R := fun b b' => p ∈ b.places → p ∈ b'.places → b = b') (fun _ _ _ _ => rfl)
    (hdisjoint.imp fun h hp hp' => absurd hp' (h hp))
    (hdisjoint.imp fun h hp hp' => absurd hp (h hp')) hb hb' hp hp'

/-- A partner leads from many rows of the owner, and no key has brought it about. -/
theorem Bond.IsPartner.facts (hdeclared : AllDeclared declared) {ownerId : String} {b : Bond}
    {r : Relationship} (h : b.IsPartner declared ownerId r) :
    r.target = ownerId ∧ r.cardinality = .oneToMany ∧ r.origin ≠ .foreignKey := by
  rcases h with ⟨slot, hslot, hfree, rfl⟩ | rfl
  · obtain ⟨-, hcardinality, horigin⟩ := hdeclared _ slot hslot
    rw [Slot.isFree, Bool.and_eq_true, beq_iff_eq] at hfree
    simp only [Slot.claim, horigin]
    exact ⟨hfree.2, hcardinality, by decide⟩
  · refine ⟨rfl, rfl, fun horigin => ?_⟩
    cases horigin

/-- What stands at a place: a declared relationship that no key has claimed, the many-to-one side of
    a bond, or the one-to-many side of one. -/
theorem Kept.side_cases (h : Kept declared boards bonds) (hdeclared : AllDeclared declared)
    {p : Place} {slot : Slot} (hslot : slotAt? boards p = some slot) :
    slotAt? declared p = some slot ∧ p ∉ bonds.flatMap Bond.places ∨
      (∃ b ∈ bonds, p = b.near ∧ slot.relationship.cardinality = .manyToOne ∧
        slot.relationship.origin = .foreignKey) ∨
      ∃ b ∈ bonds, p = b.far ∧ slot.relationship.cardinality = .oneToMany ∧
        slot.relationship.origin ≠ .foreignKey := by
  cases hclaimed : slot.claimed with
  | false =>
    -- A slot that is not claimed cannot be a place of a bond: those are taken.
    refine .inl ⟨h.free p slot hslot hclaimed, fun hp => ?_⟩
    obtain ⟨b, hb, hp⟩ := List.mem_flatMap.mp hp
    obtain ⟨r, hr⟩ := (h.holds b hb).taken hp
    rw [hslot, Option.some.injEq] at hr
    rw [hr] at hclaimed
    exact nomatch hclaimed
  | true =>
    obtain ⟨b, hb, hp⟩ := h.taken p slot hslot hclaimed
    obtain ⟨ownerId, targetId, partner, -, -, hpartner, hfar, hnear⟩ := h.holds b hb
    rcases List.mem_pair.mp hp with rfl | rfl
    · rw [hslot, Option.some.injEq] at hnear
      exact .inr (.inl ⟨b, hb, rfl, by rw [hnear]; rfl, by rw [hnear]; rfl⟩)
    · rw [hslot, Option.some.injEq] at hfar
      obtain ⟨-, hcardinality, horigin⟩ := hpartner.facts hdeclared
      exact .inr (.inr ⟨b, hb, rfl, by rw [hfar]; exact hcardinality, by rw [hfar]; exact horigin⟩)

section Step

variable {owner : Nat} {edge : KeyEdge} {o t : Board}

/-- The places that an edge writes were no sides of earlier bonds. -/
private theorem Kept.ne_of_mem_places (h : Kept declared boards bonds)
    (ho : boards[owner]? = some o) (ht : boards[edge.target]? = some t) {b : Bond} (hb : b ∈ bonds)
    {p : Place} (hp : p ∈ b.places) :
    p ≠ (bond owner o t edge).near ∧ p ≠ (bond owner o t edge).far := by
  obtain ⟨r, hr⟩ := (h.holds b hb).taken hp
  constructor
  · -- The near place was empty, so no bond can have held it.
    rintro rfl
    rw [(slotAt?_near_eq_none ho ht).1] at hr
    exact nomatch hr
  · -- The far place was empty or free, and the places of bonds are taken.
    rintro rfl
    simp only [slotAt?, bond, ht, Option.bind_some] at hr
    rcases t.settle_cases o.id edge with ⟨slot, hslot, hfree, -⟩ | ⟨hnone, -⟩
    · rw [hslot, Option.some.injEq] at hr
      simp [hr, Slot.isFree, Slot.taken] at hfree
    · rw [hnone] at hr
      exact nomatch hr

/-- A slot after an edge is settled is taken and a side of its bond, or stood there before. -/
private theorem slotAt?_settleEdge_cases (ho : boards[owner]? = some o)
    (ht : boards[edge.target]? = some t) {p : Place} {slot : Slot}
    (h : slotAt? (settleEdge owner boards edge) p = some slot) :
    (p ∈ (bond owner o t edge).places ∧ slot.claimed = true) ∨ slotAt? boards p = some slot := by
  rw [slotAt?_settleEdge ho ht] at h
  split at h
  · next hp =>
    cases h
    exact .inl ⟨by simp [Bond.places, hp], rfl⟩
  · split at h
    · next hp =>
      cases h
      exact .inl ⟨by simp [Bond.places, hp], rfl⟩
    · exact .inr h

/-- The bond of an edge holds once the edge is settled. -/
private theorem Kept.holds_bond (h : Kept declared boards bonds) (ho : boards[owner]? = some o)
    (ht : boards[edge.target]? = some t) :
    (bond owner o t edge).Holds declared (Board.settleEdge owner boards edge) := by
  have hslots := slotAt?_settleEdge ho ht
  obtain ⟨-, hne⟩ := slotAt?_near_eq_none ho ht
  have hids := map_id_settleEdge owner boards edge
  refine ⟨o.id, t.id, (t.settle o.id edge).2, ?_, ?_, ?_, ?_, ?_⟩
  · simp [hids, bond, ho]
  · simp [hids, bond, ht]
  · rcases t.settle_cases o.id edge with ⟨slot, hslot, hfree, hpartner⟩ | ⟨-, hpartner⟩
    · -- A free slot is still the declared one.
      have hfar : slotAt? boards (bond owner o t edge).far = some slot := by
        simp [slotAt?, bond, ht, hslot]
      have hunclaimed : slot.claimed = false := by
        rw [Slot.isFree, Bool.and_eq_true, Bool.not_eq_true'] at hfree
        exact hfree.1
      exact .inl ⟨slot, h.free _ slot hfar hunclaimed, hfree, hpartner⟩
    · exact .inr hpartner
  · rw [hslots, if_neg hne.symm, if_pos rfl]
  · rw [hslots, if_pos rfl]

/-- One edge keeps the invariant. -/
theorem Kept.settleEdge (h : Kept declared boards bonds) (ho : boards[owner]? = some o)
    (ht : boards[edge.target]? = some t) :
    Kept declared (settleEdge owner boards edge) (bonds ++ [bond owner o t edge]) := by
  have hids := map_id_settleEdge owner boards edge
  constructor
  case ids => exact hids.trans h.ids
  case free =>
    intro p slot hslot hclaimed
    rcases slotAt?_settleEdge_cases ho ht hslot with ⟨-, htaken⟩ | hbefore
    · rw [hclaimed] at htaken
      exact nomatch htaken
    · exact h.free p slot hbefore hclaimed
  case taken =>
    intro p slot hslot hclaimed
    rcases slotAt?_settleEdge_cases ho ht hslot with ⟨hp, -⟩ | hbefore
    · exact ⟨_, List.mem_append_right _ List.mem_cons_self, hp⟩
    · obtain ⟨b, hb, hp⟩ := h.taken p slot hbefore hclaimed
      exact ⟨b, List.mem_append_left _ hb, hp⟩
  case holds =>
    intro b hb
    rcases List.mem_append.mp hb with hb | hb
    · -- Earlier bonds hold on, since the edge writes none of their places.
      refine (h.holds b hb).of_eq hids fun p hp => ?_
      obtain ⟨hpnear, hpfar⟩ := h.ne_of_mem_places ho ht hb hp
      rw [slotAt?_settleEdge ho ht, if_neg hpnear, if_neg hpfar]
    · obtain rfl := List.mem_singleton.mp hb
      exact h.holds_bond ho ht
  case distinct =>
    obtain ⟨-, hne⟩ := slotAt?_near_eq_none ho ht
    rw [List.flatMap_append, List.nodup_append]
    refine ⟨h.distinct, by simp [Bond.places, hne], fun p hp q hq => ?_⟩
    obtain ⟨b, hb, hpb⟩ := List.mem_flatMap.mp hp
    obtain ⟨hpnear, hpfar⟩ := h.ne_of_mem_places ho ht hb hpb
    rw [List.flatMap_singleton, Bond.places, List.mem_pair] at hq
    rcases hq with rfl | rfl
    · exact hpnear
    · exact hpfar

end Step

/-- A row of edges keeps the invariant. -/
theorem Kept.settleAll (h : Kept declared boards bonds) (keys : List (Nat × KeyEdge)) :
    Kept declared (settleAll boards keys) (bonds ++ ledger boards keys) := by
  induction keys generalizing boards bonds with
  | nil => simpa [Board.settleAll, ledger] using h
  | cons key rest ih =>
    obtain ⟨owner, edge⟩ := key
    rw [ledger, Board.settleAll, List.foldl_cons, ← List.append_assoc]
    refine ih ?_
    split
    · next o t ho ht => exact h.settleEdge ho ht
    · next hmissing =>
      -- An edge without an owner or a target changes nothing.
      have hsame : Board.settleEdge owner boards edge = boards := by
        rw [Board.settleEdge]
        split
        · next o t ho ht => exact absurd ht (hmissing o t ho)
        · rfl
      rw [hsame, List.append_nil]
      exact h

/-- The ledger of a row of edges accounts for the settled boards. -/
theorem kept_ledger (h : AllDeclared declared) (keys : List (Nat × KeyEdge)) :
    Kept declared (settleAll declared keys) (ledger declared keys) := by
  simpa using (Kept.start h).settleAll keys

/-! ## Many-to-one sides in order -/

/-- The many-to-one sides on a board. -/
def keyed (b : Board) : List Relationship :=
  b.synthesized.filter (·.isKeyed)

/-- The many-to-one sides of one table. -/
def keyedAt (boards : List Board) (i : Nat) : List Relationship :=
  (boards[i]?.map keyed).getD []

theorem keyed_settle (b : Board) (ownerId : String) (edge : KeyEdge) :
    (b.settle ownerId edge).1.keyed = b.keyed := by
  rw [settle]
  cases b.counterpart? ownerId edge with
  | none => simp [keyed, add, inverse, Relationship.isKeyed]
  | some found => rfl

theorem keyed_add_reverse (b : Board) (partner : Relationship) (target : String) :
    (b.add (partner.reverse target)).keyed = b.keyed ++ [partner.reverse target] := by
  simp [keyed, add, Relationship.reverse, Relationship.isKeyed]

/-- The relationship leads to the target of the edge, and tells its key if the edge is shared. -/
def Follows (ids : List String) (edge : KeyEdge) (r : Relationship) : Prop :=
  ids[edge.target]? = some r.target ∧ r.foreignKeys = edge.foreignKeys

/-- Partners tell their key if the edge is shared. -/
theorem foreignKeys_settle (b : Board) (ownerId : String) (edge : KeyEdge) :
    (b.settle ownerId edge).2.foreignKeys = edge.foreignKeys := by
  rcases b.settle_cases ownerId edge with ⟨slot, -, -, hpartner⟩ | ⟨-, hpartner⟩
  · rw [hpartner, Slot.claim]
  · rw [hpartner, inverse]

/-- An edge adds its many-to-one side to those of its owner. -/
theorem keyedAt_settleEdge {owner : Nat} {edge : KeyEdge} {o t : Board}
    (ho : boards[owner]? = some o) (ht : boards[edge.target]? = some t) (i : Nat) :
    keyedAt (Board.settleEdge owner boards edge) i =
      keyedAt boards i ++ if i = owner then [(t.settle o.id edge).2.reverse t.id] else [] := by
  obtain ⟨hlt, hget⟩ := List.getElem?_eq_some_iff.mp ht
  rw [settleEdge_eq ho ht, keyedAt, keyedAt, List.getElem?_modify, List.getElem?_set]
  -- The table is the owner, the target, both of them or neither.
  by_cases howner : owner = i
  · subst howner
    by_cases hself : edge.target = owner
    · subst hself
      simp [hlt, hget, keyed_add_reverse, keyed_settle]
    · simp [hself, ho, keyed_add_reverse]
  · by_cases htarget : edge.target = i
    · subst htarget
      simp [howner, Ne.symm howner, hlt, hget, keyed_settle]
    · simp [howner, Ne.symm howner, htarget]

/-- A row of edges adds to the many-to-one sides of a table one for each edge that it owns, in
    order. -/
theorem forall₂_keyed_settleAll (keys : List (Nat × KeyEdge)) (boards : List Board)
    (h : ∀ key ∈ keys, key.1 < boards.length ∧ key.2.target < boards.length) (i : Nat) :
    ∃ sides, keyedAt (Board.settleAll boards keys) i = keyedAt boards i ++ sides ∧
      List.Forall₂ (Follows (boards.map (·.id))) ((keys.filter (·.1 == i)).map (·.2)) sides := by
  induction keys generalizing boards with
  | nil => exact ⟨[], (List.append_nil _).symm, .nil⟩
  | cons key rest ih =>
    obtain ⟨owner, edge⟩ := key
    obtain ⟨⟨howner, htarget⟩, hrest⟩ := List.forall_mem_cons.mp h
    obtain ⟨o, ho⟩ : ∃ o, boards[owner]? = some o := ⟨_, List.getElem?_eq_getElem howner⟩
    obtain ⟨t, ht⟩ : ∃ t, boards[edge.target]? = some t := ⟨_, List.getElem?_eq_getElem htarget⟩
    -- The other edges find the same tables, since the first one keeps all identifiers.
    have hids := map_id_settleEdge owner boards edge
    have hlength : (Board.settleEdge owner boards edge).length = boards.length := by
      simpa using congrArg List.length hids
    obtain ⟨sides, hsides, hfollow⟩ := ih (Board.settleEdge owner boards edge)
      (by rwa [hlength])
    rw [hids] at hfollow
    rw [Board.settleAll, List.foldl_cons]
    by_cases hi : owner = i
    · subst hi
      refine ⟨(t.settle o.id edge).2.reverse t.id :: sides, ?_, ?_⟩
      · rw [← Board.settleAll, hsides, keyedAt_settleEdge ho ht, if_pos rfl, List.append_assoc]
        rfl
      · rw [List.filter_cons_of_pos (by simp), List.map_cons]
        refine .cons ⟨?_, foreignKeys_settle _ _ _⟩ hfollow
        rw [List.getElem?_map, ht]
        rfl
    · refine ⟨sides, ?_, ?_⟩
      · rw [← Board.settleAll, hsides, keyedAt_settleEdge ho ht, if_neg (Ne.symm hi),
          List.append_nil]
      · rwa [List.filter_cons_of_neg (by simpa using hi)]

/-- The edges of one owner among those of all owners. -/
theorem filter_keysOf (edges : List (List KeyEdge)) {owners : List Nat} (h : owners.Nodup)
    (i : Nat) :
    ((keysOf edges owners).filter (·.1 == i)).map (·.2) =
      if i ∈ owners then edges[i]?.getD [] else [] := by
  induction owners with
  | nil => rfl
  | cons owner rest ih =>
    -- An owner comes once, so its edges are not among those of the rest.
    obtain ⟨hnotin, hrest⟩ := List.nodup_cons.mp h
    rw [keysOf, List.flatMap_cons, List.filter_append, List.map_append, ← keysOf, ih hrest]
    by_cases hi : owner = i
    · subst hi
      simp [hnotin, List.filter_map, Function.comp_def]
    · simp [hi, Ne.symm hi, List.filter_map, Function.comp_def]

end Board

end SchemaLang
