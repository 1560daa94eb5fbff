import SchemaLang.Draft.Member
import SchemaLang.Proofs.Pairing.Claims

/-!
# The order of owners

Owners are settled one after the other on boards that all of them share. A slot leads to one owner,
so edges of different owners claim different slots, and neither of them changes what the other one
finds. Whichever is settled first, the same relationships are claimed, in the same way, and the same
ones are added; only the order of those that are added tells which edge came first.

## Key results

- `agrees_settle_settle`: edges of different owners on one board
- `allAgree_settleEdge_comm`: edges of different owners on all boards
- `allAgree_settleOwners_of_perm`: owners in any order
- `forall₂_agrees_ofDrafts`: the boards of all tables, owners in any order
-/

namespace SchemaLang

namespace Board

/-- The boards differ at most in the order of what keys have brought about. -/
structure Agrees (b b' : Board) : Prop where
  id : b.id = b'.id
  /-- The same relationships are declared in the same places, and claimed in the same way. -/
  explicit : b.explicit = b'.explicit
  /-- The same relationships have been brought about, each of them as often. -/
  synthesized : b.synthesized.Perm b'.synthesized

/-- The one-to-many side is made of what the edge finds. -/
theorem partner_congr {b b' : Board} {ownerId : String} {edge : KeyEdge}
    (h : b.counterpart? ownerId edge = b'.counterpart? ownerId edge) :
    (b.settle ownerId edge).2 = (b'.settle ownerId edge).2 := by
  cases hfound : b'.counterpart? ownerId edge with
  | none => rw [settle_of_none hfound, settle_of_none (h.trans hfound)]
  | some found => rw [settle_of_some hfound, settle_of_some (h.trans hfound)]

namespace Agrees

variable {b b' c : Board}

theorem refl (b : Board) : Agrees b b :=
  ⟨rfl, rfl, .refl _⟩

theorem symm (h : Agrees b b') : Agrees b' b :=
  ⟨h.id.symm, h.explicit.symm, h.synthesized.symm⟩

theorem trans (h : Agrees b b') (h' : Agrees b' c) : Agrees b c :=
  ⟨h.id.trans h'.id, h.explicit.trans h'.explicit, h.synthesized.trans h'.synthesized⟩

theorem add (h : Agrees b b') (r : Relationship) : Agrees (b.add r) (b'.add r) :=
  ⟨h.id, h.explicit, h.synthesized.append_right [r]⟩

/-- What an edge claims is looked up among the declared relationships. -/
theorem counterpart?_eq (h : Agrees b b') (ownerId : String) (edge : KeyEdge) :
    b.counterpart? ownerId edge = b'.counterpart? ownerId edge := by
  rw [counterpart?, counterpart?, h.explicit]

theorem settle (h : Agrees b b') (ownerId : String) (edge : KeyEdge) :
    Agrees (b.settle ownerId edge).1 (b'.settle ownerId edge).1 := by
  have hcounterpart := h.counterpart?_eq ownerId edge
  cases hfound : b'.counterpart? ownerId edge with
  | none =>
    rw [settle_of_none hfound, settle_of_none (hcounterpart.trans hfound)]
    exact h.add _
  | some found =>
    rw [settle_of_some hfound, settle_of_some (hcounterpart.trans hfound)]
    exact ⟨h.id, by rw [h.explicit], h.synthesized⟩

theorem partner_eq (h : Agrees b b') (ownerId : String) (edge : KeyEdge) :
    (b.settle ownerId edge).2 = (b'.settle ownerId edge).2 :=
  partner_congr (h.counterpart?_eq ownerId edge)

end Agrees

/-! ## Edges on one board -/

theorem agrees_add_add (b : Board) (r r' : Relationship) :
    Agrees ((b.add r).add r') ((b.add r').add r) := by
  refine ⟨rfl, rfl, ?_⟩
  show (b.synthesized ++ [r] ++ [r']).Perm (b.synthesized ++ [r'] ++ [r])
  rw [List.append_assoc, List.append_assoc]
  exact List.perm_append_comm.append_left _

/-- What is added has no say in what an edge claims. -/
theorem agrees_settle_add (b : Board) (r : Relationship) (ownerId : String) (edge : KeyEdge) :
    Agrees ((b.add r).settle ownerId edge).1 ((b.settle ownerId edge).1.add r) := by
  have hcounterpart : (b.add r).counterpart? ownerId edge = b.counterpart? ownerId edge := rfl
  cases hfound : b.counterpart? ownerId edge with
  | none =>
    rw [settle_of_none hfound, settle_of_none (hcounterpart.trans hfound)]
    exact agrees_add_add b r _
  | some found =>
    rw [settle_of_some hfound, settle_of_some (hcounterpart.trans hfound)]
    exact .refl _

/-- An edge finds what it would have found before an edge of another owner. -/
theorem counterpart?_settle_of_ne (b : Board) {ownerId other : String} (hne : other ≠ ownerId)
    (edge edge' : KeyEdge) :
    (b.settle ownerId edge).1.counterpart? other edge' = b.counterpart? other edge' := by
  have hopen : openSlots (b.settle ownerId edge).1.explicit other edge'.name =
      openSlots b.explicit other edge'.name :=
    filter_explicit_settle b hne edge fun _ => Slot.isFree_of_isOpen
  have hfree := filter_explicit_settle b hne edge (p := Slot.isFree other) fun _ h => h
  rw [counterpart?_eq, counterpart?_eq, hopen, hfree]

/-- Edges of different owners claim different slots. -/
theorem place_ne_of_counterpart? {b : Board} {ownerId other : String} (hne : other ≠ ownerId)
    {edge edge' : KeyEdge} {found found' : Slot × Nat}
    (h : b.counterpart? ownerId edge = some found)
    (h' : b.counterpart? other edge' = some found') : found.2 ≠ found'.2 := by
  intro hplace
  obtain ⟨hslot, hfree⟩ := isFree_of_counterpart? h
  obtain ⟨hslot', hfree'⟩ := isFree_of_counterpart? h'
  -- One place would hold one slot, which leads to both owners.
  have hsame : found.1 = found'.1 :=
    Option.some.inj (hslot.symm.trans ((congrArg (b.explicit[·]?) hplace).trans hslot'))
  rw [Slot.isFree, Bool.and_eq_true, beq_iff_eq] at hfree hfree'
  exact hne (hfree'.2.symm.trans ((congrArg (·.relationship.target) hsame).symm.trans hfree.2))

/-- Edges of different owners can be settled in either order. -/
theorem agrees_settle_settle (b : Board) {ownerId other : String} (hne : other ≠ ownerId)
    (edge edge' : KeyEdge) :
    Agrees ((b.settle ownerId edge).1.settle other edge').1
      ((b.settle other edge').1.settle ownerId edge).1 := by
  have hlater := b.counterpart?_settle_of_ne hne edge edge'
  have hlater' := b.counterpart?_settle_of_ne hne.symm edge' edge
  cases h : b.counterpart? ownerId edge with
  | none =>
    rw [settle_of_none (hlater'.trans h)]
    cases h' : b.counterpart? other edge' with
    | none =>
      rw [settle_of_none (hlater.trans h'), settle_of_none h, settle_of_none h']
      exact agrees_add_add b _ _
    | some found' =>
      rw [settle_of_some (hlater.trans h'), settle_of_none h, settle_of_some h']
      exact .refl _
  | some found =>
    rw [settle_of_some (hlater'.trans h)]
    cases h' : b.counterpart? other edge' with
    | none =>
      rw [settle_of_none (hlater.trans h'), settle_of_some h, settle_of_none h']
      exact .refl _
    | some found' =>
      rw [settle_of_some (hlater.trans h'), settle_of_some h, settle_of_some h']
      exact ⟨rfl, List.set_comm _ _ (place_ne_of_counterpart? hne h h'), .refl _⟩

/-! ## Operations on boards -/

/-- The operation does not see in which order keys have brought relationships about. -/
def Respects (f : Board → Board) : Prop :=
  ∀ b b', Agrees b b' → Agrees (f b) (f b')

/-- The operations can be done in either order. -/
def Commutes (f g : Board → Board) : Prop :=
  ∀ b, Agrees (f (g b)) (g (f b))

theorem Commutes.symm {f g : Board → Board} (h : Commutes f g) : Commutes g f :=
  fun b => (h b).symm

/-- An operation that can be done before or after each of two others can be done so with both. -/
theorem Commutes.comp {f g h : Board → Board} (hg : Commutes f g) (hh : Commutes f h)
    (hrespects : Respects g) : Commutes f (g ∘ h) :=
  fun b => (hg (h b)).trans (hrespects _ _ (hh b))

/-- The many-to-one side of an edge is added to the board of the owner. -/
def addAt (i owner : Nat) (side : Relationship) (b : Board) : Board :=
  if i = owner then b.add side else b

/-- The one-to-many side of an edge is settled on the board of the target. -/
def settleAt (i : Nat) (ownerId : String) (edge : KeyEdge) (b : Board) : Board :=
  if i = edge.target then (b.settle ownerId edge).1 else b

section Operations

variable {i owner owner' : Nat} {ownerId other : String} {edge edge' : KeyEdge}
  {side side' : Relationship}

theorem respects_addAt : Respects (addAt i owner side) := by
  intro b b' h
  rw [addAt, addAt]
  split
  · exact h.add side
  · exact h

theorem respects_settleAt : Respects (settleAt i ownerId edge) := by
  intro b b' h
  rw [settleAt, settleAt]
  split
  · exact h.settle ownerId edge
  · exact h

theorem commutes_addAt_addAt : Commutes (addAt i owner side) (addAt i owner' side') := by
  intro b
  simp only [addAt]
  split
  · split
    · exact agrees_add_add b side' side
    · exact .refl _
  · exact .refl _

theorem commutes_settleAt_addAt : Commutes (settleAt i ownerId edge) (addAt i owner side) := by
  intro b
  simp only [settleAt, addAt]
  split
  · split
    · exact agrees_settle_add b side ownerId edge
    · exact .refl _
  · exact .refl _

theorem commutes_settleAt_settleAt (hne : ownerId ≠ other) :
    Commutes (settleAt i ownerId edge) (settleAt i other edge') := by
  intro b
  simp only [settleAt]
  split
  · split
    · exact agrees_settle_settle b hne edge' edge
    · exact .refl _
  · exact .refl _

end Operations

/-- What an edge does to the board in place `i`, if its owner has the given identifier and the given
    many-to-one side comes of it. It does nothing if it does not lead from a table to a table. -/
def effect (i : Nat) (key : Nat × KeyEdge) : Option (String × Relationship) → Board → Board
  | none => fun b => b
  | some (ownerId, side) => addAt i key.1 side ∘ settleAt i ownerId key.2

theorem respects_effect (i : Nat) (key : Nat × KeyEdge) (outcome : Option (String × Relationship)) :
    Respects (effect i key outcome) := by
  intro b b' h
  cases outcome with
  | none => exact h
  | some found => exact respects_addAt _ _ (respects_settleAt _ _ h)

/-- What edges of different owners do can be done in either order. -/
theorem commutes_effect (i : Nat) {key key' : Nat × KeyEdge}
    {outcome outcome' : Option (String × Relationship)}
    (hne : ∀ found ∈ outcome, ∀ found' ∈ outcome', found.1 ≠ found'.1) :
    Commutes (effect i key outcome) (effect i key' outcome') := by
  cases outcome with
  | none => exact fun b => .refl _
  | some found =>
    cases outcome' with
    | none => exact fun b => .refl _
    | some found' =>
      have hids : found.1 ≠ found'.1 := hne found rfl found' rfl
      -- Each half of the one edge is taken past each half of the other one.
      have hadd : Commutes (effect i key' (some found')) (addAt i key.1 found.2) :=
        (commutes_addAt_addAt.comp commutes_settleAt_addAt.symm respects_addAt).symm
      have hsettle : Commutes (effect i key' (some found')) (settleAt i found.1 key.2) :=
        (commutes_settleAt_addAt.comp (commutes_settleAt_settleAt hids) respects_addAt).symm
      exact (hadd.comp hsettle respects_addAt).symm

theorem id_effect (i : Nat) (key : Nat × KeyEdge) (outcome : Option (String × Relationship))
    (b : Board) : (effect i key outcome b).id = b.id := by
  cases outcome with
  | none => rfl
  | some found =>
    have hsettle : (settleAt i found.1 key.2 b).id = b.id := by
      rw [settleAt]
      split
      · exact id_settle b _ _
      · rfl
    rw [effect, Function.comp_apply, addAt]
    split
    · exact hsettle
    · exact hsettle

/-- What an edge does has no say in what an edge of another owner claims. -/
theorem counterpart?_effect_of_ne (i : Nat) (key : Nat × KeyEdge)
    {outcome : Option (String × Relationship)} {other : String} (edge : KeyEdge)
    (hne : ∀ found ∈ outcome, found.1 ≠ other) (b : Board) :
    (effect i key outcome b).counterpart? other edge = b.counterpart? other edge := by
  cases outcome with
  | none => rfl
  | some found =>
    have hsettle : (settleAt i found.1 key.2 b).counterpart? other edge =
        b.counterpart? other edge := by
      rw [settleAt]
      split
      · exact b.counterpart?_settle_of_ne (hne found rfl).symm key.2 edge
      · rfl
    rw [effect, Function.comp_apply, addAt]
    split
    · exact hsettle
    · exact hsettle

/-! ## Edges on all boards -/

/-- The identifier of the owner and the many-to-one side of an edge, if it leads from a table to a
    table. -/
def outcome? (boards : List Board) (key : Nat × KeyEdge) : Option (String × Relationship) :=
  match boards[key.1]?, boards[key.2.target]? with
  | some o, some t => some (o.id, (t.settle o.id key.2).2.reverse t.id)
  | _, _ => none

private theorem modify_add_eq_mapIdx (boards : List Board) (owner : Nat) (side : Relationship) :
    boards.modify owner (·.add side) = boards.mapIdx fun i => addAt i owner side := by
  refine List.ext_getElem? fun i => ?_
  rw [List.getElem?_modify, List.getElem?_mapIdx]
  cases boards[i]? with
  | none => rfl
  | some b =>
    by_cases howner : owner = i
    · simp [addAt, howner]
    · simp [addAt, howner, Ne.symm howner]

private theorem set_settle_eq_mapIdx {boards : List Board} {edge : KeyEdge} {t : Board}
    (ht : boards[edge.target]? = some t) (ownerId : String) :
    boards.set edge.target (t.settle ownerId edge).1 =
      boards.mapIdx fun i => settleAt i ownerId edge := by
  have hlt : edge.target < boards.length := (List.getElem?_eq_some_iff.mp ht).1
  refine List.ext_getElem? fun i => ?_
  rw [List.getElem?_set, List.getElem?_mapIdx]
  by_cases htarget : edge.target = i
  · subst htarget
    rw [if_pos rfl, if_pos hlt, ht, Option.map_some, settleAt, if_pos rfl]
  · rw [if_neg htarget]
    cases boards[i]? with
    | none => rfl
    | some b => rw [Option.map_some, settleAt, if_neg (Ne.symm htarget)]

/-- An edge does to each board what its outcome calls for. -/
theorem settleEdge_eq_mapIdx (boards : List Board) (key : Nat × KeyEdge) :
    settleEdge key.1 boards key.2 =
      boards.mapIdx fun i => effect i key (outcome? boards key) := by
  have hnone : boards.mapIdx (fun _ b => b) = boards := by
    refine List.ext_getElem? fun i => ?_
    rw [List.getElem?_mapIdx]
    exact Option.map_id'
  cases ho : boards[key.1]? with
  | none =>
    rw [settleEdge, outcome?, ho]
    exact hnone.symm
  | some o =>
    cases ht : boards[key.2.target]? with
    | none =>
      rw [settleEdge, outcome?, ho, ht]
      exact hnone.symm
    | some t =>
      rw [settleEdge_eq ho ht, outcome?, ho, ht, set_settle_eq_mapIdx ht, modify_add_eq_mapIdx,
        List.mapIdx_mapIdx]
      rfl

/-- The boards in each place agree. -/
def AllAgree (boards boards' : List Board) : Prop :=
  List.Forall₂ Agrees boards boards'

namespace AllAgree

variable {boards boards' boards'' : List Board}

theorem refl (boards : List Board) : AllAgree boards boards :=
  List.forall₂_same.mpr fun b _ => .refl b

theorem trans (h : AllAgree boards boards') (h' : AllAgree boards' boards'') :
    AllAgree boards boards'' :=
  (h.comp h').imp fun _ _ ⟨_, hleft, hright⟩ => hleft.trans hright

/-- There is a board in a place of both, and the two agree, or of neither. -/
theorem getElem?_cases (h : AllAgree boards boards') (i : Nat) :
    (boards[i]? = none ∧ boards'[i]? = none) ∨
      ∃ b b', boards[i]? = some b ∧ boards'[i]? = some b' ∧ Agrees b b' := by
  cases hb : boards[i]? with
  | none =>
    rw [List.getElem?_eq_none_iff, h.length_eq, ← List.getElem?_eq_none_iff] at hb
    exact .inl ⟨rfl, hb⟩
  | some b =>
    obtain ⟨b', hb', hagrees⟩ := h.exists_getElem? hb
    exact .inr ⟨b, b', rfl, hb', hagrees⟩

/-- Operations that agree on each board agree on all of them. -/
theorem mapIdx (h : AllAgree boards boards') {f g : Nat → Board → Board}
    (hfg : ∀ i b b', Agrees b b' → Agrees (f i b) (g i b')) :
    AllAgree (boards.mapIdx f) (boards'.mapIdx g) := by
  induction h generalizing f g with
  | nil => exact .nil
  | cons hb _ ih =>
    rw [List.mapIdx_cons, List.mapIdx_cons]
    exact .cons (hfg 0 _ _ hb) (ih fun i => hfg (i + 1))

/-- What comes of an edge does not depend on the order of what others have brought about. -/
theorem outcome?_eq (h : AllAgree boards boards') (key : Nat × KeyEdge) :
    outcome? boards key = outcome? boards' key := by
  rcases h.getElem?_cases key.1 with ⟨ho, ho'⟩ | ⟨o, o', ho, ho', howner⟩
  · rw [outcome?, outcome?, ho, ho']
  · rcases h.getElem?_cases key.2.target with ⟨ht, ht'⟩ | ⟨t, t', ht, ht', htarget⟩
    · rw [outcome?, outcome?, ho, ho', ht, ht']
    · rw [outcome?, outcome?, ho, ho', ht, ht']
      simp only [howner.id, htarget.id, htarget.partner_eq]

theorem settleEdge (h : AllAgree boards boards') (key : Nat × KeyEdge) :
    AllAgree (Board.settleEdge key.1 boards key.2) (Board.settleEdge key.1 boards' key.2) := by
  rw [settleEdge_eq_mapIdx, settleEdge_eq_mapIdx, h.outcome?_eq]
  exact h.mapIdx fun i => respects_effect i key _

theorem settleAll (h : AllAgree boards boards') (keys : List (Nat × KeyEdge)) :
    AllAgree (Board.settleAll boards keys) (Board.settleAll boards' keys) := by
  induction keys generalizing boards boards' with
  | nil => exact h
  | cons key rest ih => exact ih (h.settleEdge key)

end AllAgree

section Distinct

variable {boards : List Board} {key key' : Nat × KeyEdge}

/-- Tables in different places have different identifiers. -/
private theorem id_ne_of_nodup (hids : (boards.map (·.id)).Nodup) {i j : Nat} (hne : i ≠ j)
    {b b' : Board} (hb : boards[i]? = some b) (hb' : boards[j]? = some b') : b.id ≠ b'.id := by
  intro hid
  have hlt : i < (boards.map (·.id)).length := by
    rw [List.length_map]
    exact (List.getElem?_eq_some_iff.mp hb).1
  refine hne ((List.getElem?_inj hlt hids).mp ?_)
  rw [List.getElem?_map, List.getElem?_map, hb, hb', Option.map_some, Option.map_some, hid]

/-- The owner whose identifier an outcome holds. -/
private theorem exists_owner_of_outcome? {found : String × Relationship}
    (h : found ∈ outcome? boards key) : ∃ o, boards[key.1]? = some o ∧ found.1 = o.id := by
  rw [outcome?] at h
  split at h
  · next o t ho ht =>
    cases h
    exact ⟨o, ho, rfl⟩
  · cases h

/-- An edge comes out as it would have done before an edge of another owner. -/
theorem outcome?_settleEdge_of_ne (hids : (boards.map (·.id)).Nodup) (hne : key.1 ≠ key'.1) :
    outcome? (settleEdge key.1 boards key.2) key' = outcome? boards key' := by
  have hother : ∀ o, boards[key'.1]? = some o → ∀ found ∈ outcome? boards key,
      found.1 ≠ o.id := by
    intro o ho found hfound
    obtain ⟨o', ho', hid⟩ := exists_owner_of_outcome? hfound
    rw [hid]
    exact id_ne_of_nodup hids hne ho' ho
  rw [settleEdge_eq_mapIdx]
  generalize outcome? boards key = outcome at hother ⊢
  rw [outcome?, outcome?, List.getElem?_mapIdx, List.getElem?_mapIdx]
  cases ho : boards[key'.1]? with
  | none => rfl
  | some o =>
    cases boards[key'.2.target]? with
    | none => rfl
    | some t =>
      have hpartner := partner_congr
        (counterpart?_effect_of_ne key'.2.target key key'.2 (hother o ho) t)
      simp only [Option.map_some, id_effect, hpartner]

/-- Edges of different owners can be settled in either order. -/
theorem allAgree_settleEdge_comm (hids : (boards.map (·.id)).Nodup) (hne : key.1 ≠ key'.1) :
    AllAgree (settleEdge key'.1 (settleEdge key.1 boards key.2) key'.2)
      (settleEdge key.1 (settleEdge key'.1 boards key'.2) key.2) := by
  have hcommutes (i : Nat) : Commutes (effect i key' (outcome? boards key'))
      (effect i key (outcome? boards key)) := by
    refine commutes_effect i fun found hfound found' hfound' => ?_
    obtain ⟨o, ho, hid⟩ := exists_owner_of_outcome? hfound
    obtain ⟨o', ho', hid'⟩ := exists_owner_of_outcome? hfound'
    rw [hid, hid']
    exact id_ne_of_nodup hids hne.symm ho ho'
  rw [settleEdge_eq_mapIdx _ key', outcome?_settleEdge_of_ne hids hne, settleEdge_eq_mapIdx _ key,
    settleEdge_eq_mapIdx _ key, outcome?_settleEdge_of_ne hids hne.symm,
    settleEdge_eq_mapIdx _ key', List.mapIdx_mapIdx, List.mapIdx_mapIdx]
  refine (AllAgree.refl boards).mapIdx fun i b b' h => (hcommutes i b).trans ?_
  exact respects_effect i key _ _ _ (respects_effect i key' _ _ _ h)

/-! ## Rows of edges -/

theorem nodup_id_settleAll (hids : (boards.map (·.id)).Nodup) (keys : List (Nat × KeyEdge)) :
    ((settleAll boards keys).map (·.id)).Nodup := by
  rw [map_settleAll (·.id) map_id_settleEdge]
  exact hids

/-- An edge can be settled before or after a row of edges of other owners. -/
theorem allAgree_settleAll_settleEdge (keys : List (Nat × KeyEdge))
    (hids : (boards.map (·.id)).Nodup) (hother : ∀ key' ∈ keys, key.1 ≠ key'.1) :
    AllAgree (settleAll (settleEdge key.1 boards key.2) keys)
      (settleEdge key.1 (settleAll boards keys) key.2) := by
  induction keys generalizing boards with
  | nil => exact .refl _
  | cons key' rest ih =>
    obtain ⟨hne, hrest⟩ := List.forall_mem_cons.mp hother
    have hids' : ((settleEdge key'.1 boards key'.2).map (·.id)).Nodup := by
      rwa [map_id_settleEdge]
    exact ((allAgree_settleEdge_comm hids hne).settleAll rest).trans (ih hids' hrest)

/-- Rows of edges of different owners can be settled in either order. -/
theorem allAgree_settleAll_append (keys keys' : List (Nat × KeyEdge))
    (hids : (boards.map (·.id)).Nodup)
    (hother : ∀ key ∈ keys, ∀ key' ∈ keys', key.1 ≠ key'.1) :
    AllAgree (settleAll (settleAll boards keys) keys') (settleAll (settleAll boards keys') keys) := by
  induction keys generalizing boards with
  | nil => exact .refl _
  | cons key rest ih =>
    obtain ⟨hkey, hrest⟩ := List.forall_mem_cons.mp hother
    have hids' : ((settleEdge key.1 boards key.2).map (·.id)).Nodup := by
      rwa [map_id_settleEdge]
    exact (ih hids' hrest).trans ((allAgree_settleAll_settleEdge keys' hids hkey).settleAll rest)

end Distinct

/-! ## Owners -/

/-- The edges of one owner as a row. -/
theorem settleOwner_eq_settleAll (edges : List (List KeyEdge)) (boards : List Board)
    (owner : Nat) :
    settleOwner edges boards owner =
      settleAll boards ((edges[owner]?.getD []).map (owner, ·)) := by
  rw [settleOwner, settleAll, List.foldl_map]

/-- Two owners can be settled in either order. -/
theorem allAgree_settleOwner_comm (edges : List (List KeyEdge)) {boards : List Board}
    (hids : (boards.map (·.id)).Nodup) (owner owner' : Nat) :
    AllAgree (settleOwner edges (settleOwner edges boards owner) owner')
      (settleOwner edges (settleOwner edges boards owner') owner) := by
  by_cases hne : owner = owner'
  · rw [hne]
    exact .refl _
  · simp only [settleOwner_eq_settleAll]
    refine allAgree_settleAll_append _ _ hids ?_
    rw [List.forall_mem_map]
    intro edge _
    rw [List.forall_mem_map]
    exact fun _ _ => hne

/-- Owners can be settled in any order. -/
theorem allAgree_settleOwners_of_perm {edges : List (List KeyEdge)} {owners owners' : List Nat}
    (h : owners.Perm owners') {boards : List Board} (hids : (boards.map (·.id)).Nodup) :
    AllAgree (settleOwners edges owners boards) (settleOwners edges owners' boards) := by
  induction h generalizing boards with
  | nil => exact .refl _
  | cons owner _ ih =>
    refine ih ?_
    rw [settleOwner_eq_settleAll]
    exact nodup_id_settleAll hids _
  | swap owner owner' rest =>
    have hcomm := allAgree_settleOwner_comm edges hids owner' owner
    have hrest := hcomm.settleAll (keysOf edges rest)
    rwa [← settleOwners_eq_settleAll, ← settleOwners_eq_settleAll] at hrest
  | trans _ _ ih ih' => exact (ih hids).trans (ih' hids)

/-- The boards of all tables are the same, up to the order of what keys have brought about,
    whichever order the owners are settled in. -/
theorem forall₂_agrees_ofDrafts (registry : Registry) {drafts : List TableDraft}
    (hids : (drafts.map (·.id)).Nodup) {owners : List Nat}
    (howners : owners.Perm (List.range drafts.length)) :
    List.Forall₂ Agrees
      (settleOwners (edgesOf drafts) owners (drafts.map (ofDraft registry)))
      (ofDrafts registry drafts) := by
  refine allAgree_settleOwners_of_perm howners ?_
  rw [List.map_map]
  exact hids

end Board

/-- Ports with a hub among themselves, and legs with two ports of which an association describes
    one. -/
def portsBeforeTheirLegs : String :=
  "table Port \x7b
hub_id Int [ref: > Port.id]
legs Leg[] [back_populates: \"goal\"]
\x7d
table Leg \x7b
goal_id Int [ref: > Port.id]
stop_id Int [ref: > Port.id]
\x7d"

/-- With legs settled before ports, the boards are the same but for the order. -/
theorem forall₂_agrees_ofDrafts_portsBeforeTheirLegs :
    ∃ registry drafts settled, registry = Registry.ofSource portsBeforeTheirLegs ∧
      drafts = TableDraft.ofSource portsBeforeTheirLegs ∧ (drafts.map (·.id)).Nodup ∧
      [1, 0].Perm (List.range drafts.length) ∧
      settled = Board.settleOwners (Board.edgesOf drafts) [1, 0]
        (drafts.map (Board.ofDraft registry)) ∧
      settled ≠ Board.ofDrafts registry drafts ∧
      List.Forall₂ Board.Agrees settled (Board.ofDrafts registry drafts) := by
  let registry := Registry.ofSource portsBeforeTheirLegs
  let drafts := TableDraft.ofSource portsBeforeTheirLegs
  let settled := Board.settleOwners (Board.edgesOf drafts) [1, 0]
    (drafts.map (Board.ofDraft registry))
  obtain ⟨hids, howners, hne⟩ : (drafts.map (·.id)).Nodup ∧
      [1, 0].Perm (List.range drafts.length) ∧ settled ≠ Board.ofDrafts registry drafts := by
    decide +kernel
  exact ⟨registry, drafts, settled, rfl, rfl, hids, howners, rfl, hne,
    Board.forall₂_agrees_ofDrafts registry hids howners⟩

end SchemaLang
