import SchemaLang.Proofs.ForStd.List
import SchemaLang.Proofs.Pairing.Ledger

/-!
# Claims over a run

An edge claims the first of the open slots that declare its name. So the slots that are open to an
owner are used up from the front, one for each of its edges of that name, and edges of other owners
do not touch them. What an edge claims in the middle of a run can be told from the declared slots
and from how many edges went before.

## Key results

- `counterpart?_eq`: an edge claims the first open slot, or adopts the first free one
- `openSlots_settle`, `filter_explicit_settle`: what one edge leaves open
- `openSlots_settleAll`, `filter_explicit_settleAll`: what a row of edges leaves open
- `slotAt?_far`, `getElem?_keyedAt_settleAll`: what an edge writes stays
- `getElem?_ledger`: edges and bonds stand in the same order
-/

namespace SchemaLang

/-- The slot can be claimed by a key of the owner and declares the name. -/
def Slot.isOpen (ownerId name : String) (slot : Slot) : Bool :=
  slot.isFree ownerId && slot.relationship.backPopulates == name

theorem Slot.isFree_of_isOpen {ownerId name : String} {slot : Slot}
    (h : slot.isOpen ownerId name = true) : slot.isFree ownerId = true := by
  rw [isOpen, Bool.and_eq_true] at h
  exact h.1

namespace Board

/-! ## Open slots -/

/-- The slots that are open to an owner under a name, with their positions. -/
def openSlots (slots : List Slot) (ownerId name : String) : List (Slot × Nat) :=
  slots.zipIdx.filter (·.1.isOpen ownerId name)

/-- An edge claims the first slot that is open under its name. The only edge to a table adopts the
    first free one instead, if there is none. -/
theorem counterpart?_eq (b : Board) (ownerId : String) (edge : KeyEdge) :
    b.counterpart? ownerId edge =
      (openSlots b.explicit ownerId edge.name).head?.or
        (if edge.shared then none
          else (b.explicit.zipIdx.filter (·.1.isFree ownerId)).head?) := by
  rw [counterpart?, openSlots, List.head?_filter, List.head?_filter]
  rfl

/-- An edge that finds nothing adds its one-to-many side. -/
theorem settle_of_none {b : Board} {ownerId : String} {edge : KeyEdge}
    (h : b.counterpart? ownerId edge = none) :
    b.settle ownerId edge = (b.add (inverse ownerId edge), inverse ownerId edge) := by
  rw [settle, h]

/-- An edge claims the slot that it finds. -/
theorem settle_of_some {b : Board} {ownerId : String} {edge : KeyEdge} {found : Slot × Nat}
    (h : b.counterpart? ownerId edge = some found) :
    b.settle ownerId edge =
      ({ b with explicit := b.explicit.set found.2 (found.1.claim edge) },
        (found.1.claim edge).relationship) := by
  rw [settle, h]

/-- The declared relationships once an edge is settled. -/
private theorem explicit_settle (b : Board) (ownerId : String) (edge : KeyEdge) :
    (b.settle ownerId edge).1.explicit =
      match b.counterpart? ownerId edge with
      | some (slot, place) => b.explicit.set place (slot.claim edge)
      | none => b.explicit := by
  rw [settle]
  cases b.counterpart? ownerId edge <;> rfl

/-- A shared edge uses up the first slot that is open under its name, and no other. -/
theorem openSlots_settle (b : Board) (ownerId : String) {edge : KeyEdge}
    (hshared : edge.shared = true) (name : String) :
    openSlots (b.settle ownerId edge).1.explicit ownerId name =
      if edge.name = name then (openSlots b.explicit ownerId name).tail
      else openSlots b.explicit ownerId name := by
  have hcounterpart := b.counterpart?_eq ownerId edge
  rw [hshared, if_pos rfl, Option.or_none] at hcounterpart
  rw [explicit_settle]
  cases hopen : b.counterpart? ownerId edge with
  | none =>
    -- Nothing is open under the name, so there is nothing to use up.
    rw [hopen] at hcounterpart
    have hnil := List.head?_eq_none_iff.mp hcounterpart.symm
    by_cases hname : edge.name = name
    · simp [← hname, hnil]
    · simp [hname]
  | some found =>
    obtain ⟨slot, place⟩ := found
    rw [hopen, openSlots, List.head?_filter] at hcounterpart
    have hname : slot.relationship.backPopulates = edge.name := by
      have hopen := List.find?_some hcounterpart.symm
      rw [Slot.isOpen, Bool.and_eq_true, beq_iff_eq] at hopen
      exact hopen.2
    have hclaimed : ∀ name, (slot.claim edge).isOpen ownerId name = false := fun _ => rfl
    by_cases heq : edge.name = name
    · subst heq
      rw [if_pos rfl]
      exact List.filter_zipIdx_set_of_find? (p := Slot.isOpen ownerId edge.name)
        hcounterpart.symm (hclaimed _)
    · -- The slot declares another name, and is not open once it is claimed.
      rw [if_neg heq]
      refine List.filter_zipIdx_set_of_neg (p := Slot.isOpen ownerId name)
        (isFree_of_counterpart? hopen).1 ?_ (hclaimed _)
      simp [Slot.isOpen, hname, heq]

/-- An edge leaves the slots alone that lead to another owner. -/
theorem filter_explicit_settle (b : Board) {ownerId other : String} (hne : other ≠ ownerId)
    (edge : KeyEdge) {p : Slot → Bool} (hp : ∀ slot, p slot = true → slot.isFree other = true) :
    ((b.settle ownerId edge).1.explicit.zipIdx.filter (p ·.1)) =
      b.explicit.zipIdx.filter (p ·.1) := by
  rw [explicit_settle]
  cases hopen : b.counterpart? ownerId edge with
  | none => rfl
  | some found =>
    obtain ⟨slot, place⟩ := found
    obtain ⟨hplace, hfree⟩ := isFree_of_counterpart? hopen
    have htarget : slot.relationship.target = ownerId := by
      rw [Slot.isFree, Bool.and_eq_true, beq_iff_eq] at hfree
      exact hfree.2
    have hfits : ∀ s : Slot, s.relationship.target = ownerId → p s = false := by
      intro s hs
      rw [← Bool.not_eq_true]
      intro hps
      have hother := hp s hps
      rw [Slot.isFree, hs, Bool.and_eq_true, beq_iff_eq] at hother
      exact hne hother.2.symm
    exact List.filter_zipIdx_set_of_neg hplace (hfits slot htarget) (hfits _ htarget)

/-! ## Runs -/

/-- The declared relationships of one table. -/
def explicitAt (boards : List Board) (i : Nat) : List Slot :=
  (boards[i]?.map (·.explicit)).getD []

theorem explicitAt_settleEdge {boards : List Board} {owner : Nat} {edge : KeyEdge} {o t : Board}
    (ho : boards[owner]? = some o) (ht : boards[edge.target]? = some t) (i : Nat) :
    explicitAt (settleEdge owner boards edge) i =
      if i = edge.target then (t.settle o.id edge).1.explicit else explicitAt boards i := by
  obtain ⟨hlt, hget⟩ := List.getElem?_eq_some_iff.mp ht
  rw [settleEdge_eq ho ht, explicitAt, explicitAt, List.getElem?_modify, List.getElem?_set]
  -- What is added to the board of the owner is not declared.
  by_cases htarget : edge.target = i
  · subst htarget
    by_cases howner : owner = edge.target <;> simp [howner, hlt, add]
  · by_cases howner : owner = i
    · simp [howner, htarget, Ne.symm htarget, add, Function.comp_def]
    · simp [howner, htarget, Ne.symm htarget]

/-- The edges lead from a table to a table. -/
def InRange (boards : List Board) (keys : List (Nat × KeyEdge)) : Prop :=
  ∀ key ∈ keys, key.1 < boards.length ∧ key.2.target < boards.length

/-- The table in a place is the only one with its identifier. -/
def IsOnly (boards : List Board) (i : Nat) (id : String) : Prop :=
  ∀ j b, boards[j]? = some b → (b.id = id ↔ j = i)

section Step

variable {boards : List Board} {i t : Nat} {id : String}

theorem IsOnly.settleEdge (h : IsOnly boards i id) (owner : Nat) (edge : KeyEdge) :
    IsOnly (settleEdge owner boards edge) i id := by
  intro j b hb
  have hids := congrArg (·[j]?) (map_id_settleEdge owner boards edge)
  simp only [List.getElem?_map, hb, Option.map_some, eq_comm (a := some b.id),
    Option.map_eq_some_iff] at hids
  obtain ⟨b', hb', hid⟩ := hids
  rw [← hid]
  exact h j b' hb'

theorem InRange.settleEdge {keys : List (Nat × KeyEdge)} (h : InRange boards keys) (owner : Nat)
    (edge : KeyEdge) : InRange (settleEdge owner boards edge) keys := by
  have hlength : (Board.settleEdge owner boards edge).length = boards.length := by
    simpa using congrArg List.length (map_id_settleEdge owner boards edge)
  rw [InRange, hlength]
  exact h

/-- An edge uses up the first open slot on the board of its target, if that is the edge's owner and
    its name. -/
private theorem openSlots_settleEdge (h : IsOnly boards i id) {key : Nat × KeyEdge}
    (hkey : key.1 < boards.length ∧ key.2.target < boards.length)
    (hshared : key.1 = i → key.2.target = t → key.2.shared = true) (name : String) :
    openSlots (explicitAt (settleEdge key.1 boards key.2) t) id name =
      (openSlots (explicitAt boards t) id name).drop
        (if key.1 == i && (key.2.target == t && key.2.name == name) then 1 else 0) := by
  obtain ⟨owner, edge⟩ := key
  obtain ⟨o, ho⟩ : ∃ o, boards[owner]? = some o := ⟨_, List.getElem?_eq_getElem hkey.1⟩
  obtain ⟨b, hb⟩ : ∃ b, boards[edge.target]? = some b := ⟨_, List.getElem?_eq_getElem hkey.2⟩
  rw [explicitAt_settleEdge ho hb]
  by_cases htarget : edge.target = t
  · subst htarget
    have hexplicit : explicitAt boards edge.target = b.explicit := by rw [explicitAt, hb]; rfl
    rw [if_pos rfl, hexplicit]
    by_cases howner : owner = i
    · obtain rfl : o.id = id := (h owner o ho).mpr howner
      rw [openSlots_settle b o.id (hshared howner rfl) name]
      by_cases hname : edge.name = name
      · simp [howner, hname]
      · simp [howner, hname]
    · have hne : id ≠ o.id := fun hid => howner ((h owner o ho).mp hid.symm)
      have hsame : openSlots (b.settle o.id edge).1.explicit id name =
          openSlots b.explicit id name :=
        filter_explicit_settle b hne edge fun _ => Slot.isFree_of_isOpen
      simp [howner, hsame]
  · simp [htarget, Ne.symm htarget]

/-- A row of edges uses up the open slots from the front. -/
theorem openSlots_settleAll (keys : List (Nat × KeyEdge)) (boards : List Board)
    (h : IsOnly boards i id) (hrange : InRange boards keys)
    (hshared : ∀ key ∈ keys, key.1 = i → key.2.target = t → key.2.shared = true) (name : String) :
    openSlots (explicitAt (settleAll boards keys) t) id name =
      (openSlots (explicitAt boards t) id name).drop
        (keys.countP fun key => key.1 == i && (key.2.target == t && key.2.name == name)) := by
  induction keys generalizing boards with
  | nil => rfl
  | cons key rest ih =>
    obtain ⟨hkey, hrest⟩ := List.forall_mem_cons.mp hrange
    obtain ⟨hsharedKey, hsharedRest⟩ := List.forall_mem_cons.mp hshared
    have hstep := openSlots_settleEdge h hkey hsharedKey name
    have hrun := ih (settleEdge key.1 boards key.2) (h.settleEdge _ _)
      (InRange.settleEdge hrest _ _) hsharedRest
    rw [settleAll, List.foldl_cons, ← settleAll, hrun, hstep, List.drop_drop, List.countP_cons,
      Nat.add_comm]

/-- A row of edges without one from the owner to the table leaves the slots there alone that lead to
    the owner. -/
theorem filter_explicit_settleAll {p : Slot → Bool}
    (hp : ∀ slot, p slot = true → slot.isFree id = true) (keys : List (Nat × KeyEdge))
    (boards : List Board) (h : IsOnly boards i id) (hrange : InRange boards keys)
    (hother : ∀ key ∈ keys, key.1 = i → key.2.target ≠ t) :
    (explicitAt (settleAll boards keys) t).zipIdx.filter (p ·.1) =
      (explicitAt boards t).zipIdx.filter (p ·.1) := by
  induction keys generalizing boards with
  | nil => rfl
  | cons key rest ih =>
    obtain ⟨owner, edge⟩ := key
    obtain ⟨hkey, hrest⟩ := List.forall_mem_cons.mp hrange
    obtain ⟨hotherKey, hotherRest⟩ := List.forall_mem_cons.mp hother
    obtain ⟨o, ho⟩ : ∃ o, boards[owner]? = some o := ⟨_, List.getElem?_eq_getElem hkey.1⟩
    obtain ⟨b, hb⟩ : ∃ b, boards[edge.target]? = some b := ⟨_, List.getElem?_eq_getElem hkey.2⟩
    have hrun := ih (settleEdge owner boards edge) (h.settleEdge _ _)
      (InRange.settleEdge hrest _ _) hotherRest
    rw [settleAll, List.foldl_cons, ← settleAll, hrun, explicitAt_settleEdge ho hb]
    split
    · next htarget =>
      -- An edge to the table is not one of the owner.
      have hne : id ≠ o.id := fun hid => hotherKey ((h owner o ho).mp hid.symm) htarget.symm
      rw [filter_explicit_settle b hne edge hp, explicitAt, htarget, hb]
      rfl
    · rfl

end Step

/-! ## What stays -/

variable {boards : List Board}

/-- A row of edges declares nothing. -/
theorem length_explicitAt_settleAll (boards : List Board) (keys : List (Nat × KeyEdge)) (i : Nat) :
    (explicitAt (settleAll boards keys) i).length = (explicitAt boards i).length := by
  have hview (boards : List Board) :
      (explicitAt boards i).length = ((boards.map declaredOrigins)[i]?.getD []).length := by
    rw [explicitAt, List.getElem?_map]
    cases boards[i]? <;> simp [declaredOrigins]
  have hsame := map_settleEdge declaredOrigins declaredOrigins_settle fun _ _ => rfl
  rw [hview, hview, map_settleAll declaredOrigins hsame]

/-- A slot that is taken stays as it is. -/
theorem slotAt?_settleAll {p : Place} {r : Relationship} (keys : List (Nat × KeyEdge))
    (boards : List Board) (hrange : InRange boards keys)
    (h : slotAt? boards p = some (Slot.taken r)) :
    slotAt? (settleAll boards keys) p = some (Slot.taken r) := by
  induction keys generalizing boards with
  | nil => exact h
  | cons key rest ih =>
    obtain ⟨owner, edge⟩ := key
    obtain ⟨hkey, hrest⟩ := List.forall_mem_cons.mp hrange
    obtain ⟨o, ho⟩ : ∃ o, boards[owner]? = some o := ⟨_, List.getElem?_eq_getElem hkey.1⟩
    obtain ⟨t, ht⟩ : ∃ t, boards[edge.target]? = some t := ⟨_, List.getElem?_eq_getElem hkey.2⟩
    rw [settleAll, List.foldl_cons, ← settleAll]
    refine ih (settleEdge owner boards edge) (InRange.settleEdge hrest _ _) ?_
    rw [slotAt?_settleEdge ho ht, if_neg, if_neg, h]
    · -- The far place held a free slot or none.
      rintro rfl
      simp only [slotAt?, bond, ht, Option.bind_some] at h
      rcases t.settle_cases o.id edge with ⟨slot, hslot, hfree, -⟩ | ⟨hnone, -⟩
      · rw [hslot, Option.some.injEq] at h
        simp [h, Slot.isFree, Slot.taken] at hfree
      · rw [hnone] at h
        cases h
    · rintro rfl
      rw [(slotAt?_near_eq_none ho ht).1] at h
      cases h

/-! ## One edge of a row -/

section Split

variable {before after : List (Nat × KeyEdge)} {owner : Nat} {edge : KeyEdge}

theorem InRange.left (h : InRange boards (before ++ (owner, edge) :: after)) :
    InRange boards before :=
  fun key hkey => h key (List.mem_append_left _ hkey)

theorem length_settleAll (boards : List Board) (keys : List (Nat × KeyEdge)) :
    (settleAll boards keys).length = boards.length := by
  simpa using congrArg List.length (map_settleAll (·.id) map_id_settleEdge boards keys)

theorem InRange.right (h : InRange boards (before ++ (owner, edge) :: after)) :
    InRange (Board.settleEdge owner (settleAll boards before) edge) after := by
  refine InRange.settleEdge (fun key hkey => ?_) _ _
  rw [length_settleAll]
  exact h key (List.mem_append_right _ (List.mem_cons_of_mem _ hkey))

/-- When it is the turn of an edge, its owner and its target have their boards. -/
theorem InRange.exists_boards (h : InRange boards (before ++ (owner, edge) :: after)) :
    ∃ o t, (settleAll boards before)[owner]? = some o ∧
      (settleAll boards before)[edge.target]? = some t := by
  obtain ⟨howner, htarget⟩ := h (owner, edge) (List.mem_append_right _ List.mem_cons_self)
  rw [← length_settleAll boards before] at howner htarget
  exact ⟨_, _, List.getElem?_eq_getElem howner, List.getElem?_eq_getElem htarget⟩

variable {o t : Board}

theorem settleAll_append_cons (boards : List Board) (before after : List (Nat × KeyEdge))
    (owner : Nat) (edge : KeyEdge) :
    settleAll boards (before ++ (owner, edge) :: after) =
      settleAll (settleEdge owner (settleAll boards before) edge) after := by
  rw [settleAll, List.foldl_append, List.foldl_cons]
  rfl

/-- The bond of an edge stands in the ledger where the edge stands in the row. -/
theorem getElem?_ledger (before : List (Nat × KeyEdge)) (boards : List Board)
    (h : InRange boards (before ++ (owner, edge) :: after))
    (ho : (settleAll boards before)[owner]? = some o)
    (ht : (settleAll boards before)[edge.target]? = some t) :
    (ledger boards (before ++ (owner, edge) :: after))[before.length]? =
      some (bond owner o t edge) := by
  induction before generalizing boards with
  | nil =>
    rw [settleAll, List.foldl_nil] at ho ht
    simp only [List.nil_append, ledger, ho, ht]
    rfl
  | cons key rest ih =>
    obtain ⟨⟨howner, htarget⟩, hrest⟩ := List.forall_mem_cons.mp h
    -- The first edge has one bond, which is passed over.
    simp only [List.cons_append, ledger, List.getElem?_eq_getElem howner,
      List.getElem?_eq_getElem htarget, List.nil_append, List.length_cons, List.getElem?_cons_succ]
    exact ih _ (InRange.settleEdge hrest _ _) ho ht

/-- The one-to-many side of an edge of a row stands at its partner position. -/
theorem slotAt?_far (h : InRange boards (before ++ (owner, edge) :: after))
    (ho : (settleAll boards before)[owner]? = some o)
    (ht : (settleAll boards before)[edge.target]? = some t) :
    slotAt? (settleAll boards (before ++ (owner, edge) :: after)) (bond owner o t edge).far =
      some (Slot.taken (t.settle o.id edge).2) := by
  obtain ⟨-, hne⟩ := slotAt?_near_eq_none ho ht
  rw [settleAll_append_cons]
  refine slotAt?_settleAll after _ h.right ?_
  rw [slotAt?_settleEdge ho ht, if_neg hne.symm, if_pos rfl]

/-- The many-to-one side of an edge of a row comes behind those of the earlier edges of its owner.
    -/
theorem getElem?_keyedAt_settleAll (hdeclared : keyedAt boards owner = [])
    (h : InRange boards (before ++ (owner, edge) :: after))
    (ho : (settleAll boards before)[owner]? = some o)
    (ht : (settleAll boards before)[edge.target]? = some t) :
    (keyedAt (settleAll boards (before ++ (owner, edge) :: after)) owner)[(before.filter
      (·.1 == owner)).length]? = some ((t.settle o.id edge).2.reverse t.id) := by
  obtain ⟨earlier, hearlier, hcount⟩ := forall₂_keyed_settleAll before boards h.left owner
  obtain ⟨later, hlater, -⟩ := forall₂_keyed_settleAll after _ h.right owner
  have hlength : (before.filter (·.1 == owner)).length = earlier.length := by
    simpa using hcount.length_eq
  rw [settleAll_append_cons, hlater, keyedAt_settleEdge ho ht, if_pos rfl, hearlier, hdeclared,
    List.nil_append, hlength, List.append_assoc, List.getElem?_append_right (Nat.le_refl _),
    Nat.sub_self]
  rfl

end Split

end Board

end SchemaLang
