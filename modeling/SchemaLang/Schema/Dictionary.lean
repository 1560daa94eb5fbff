/-!
# Dictionaries

Values under distinct keys, kept in key order. Keys are ordered by code point, which is also the
order of their UTF-8 bytes. `insert` replaces the value of a key that is already there.
-/

namespace SchemaLang

/-- Entries in strictly increasing key order. -/
structure Dictionary (α : Type) where
  entries : List (String × α)
  sorted : entries.Pairwise fun a b => a.1 < b.1

namespace Dictionary

variable {α : Type}

@[ext] theorem ext {d e : Dictionary α} (h : d.entries = e.entries) : d = e := by
  cases d
  cases e
  cases h
  rfl

instance [DecidableEq α] : DecidableEq (Dictionary α) := fun _ _ =>
  decidable_of_iff _ ⟨ext, congrArg entries⟩

/-- No entries. -/
def empty : Dictionary α := ⟨[], .nil⟩

instance : Inhabited (Dictionary α) := ⟨empty⟩

/-- Puts an entry at its place in key order. -/
def insertEntry (key : String) (value : α) : List (String × α) → List (String × α)
  | [] => [(key, value)]
  | (k, v) :: rest =>
    if key < k then (key, value) :: (k, v) :: rest
    else if key = k then (key, value) :: rest
    else (k, v) :: insertEntry key value rest

private theorem lt_of_not_lt_of_ne {a b : String} (h : ¬ a < b) (hne : a ≠ b) : b < a := by
  by_cases hba : b < a
  · exact hba
  · exact absurd (String.le_antisymm (String.not_lt.mp hba) (String.not_lt.mp h)) hne

theorem mem_insertEntry {key : String} {value : α} {entry : String × α}
    {l : List (String × α)} (h : entry ∈ insertEntry key value l) :
    entry = (key, value) ∨ entry ∈ l := by
  induction l with
  | nil => simpa [insertEntry] using h
  | cons first rest ih =>
    simp only [insertEntry] at h
    split at h
    · exact List.mem_cons.mp h
    · split at h
      · exact (List.mem_cons.mp h).imp_right (List.mem_cons_of_mem _)
      · rcases List.mem_cons.mp h with rfl | h
        · exact .inr List.mem_cons_self
        · exact (ih h).imp_right (List.mem_cons_of_mem _)

theorem sorted_insertEntry (key : String) (value : α) {l : List (String × α)}
    (h : l.Pairwise fun a b => a.1 < b.1) :
    (insertEntry key value l).Pairwise fun a b => a.1 < b.1 := by
  induction l with
  | nil => simp [insertEntry]
  | cons first rest ih =>
    obtain ⟨hfirst, hrest⟩ := List.pairwise_cons.mp h
    simp only [insertEntry]
    split
    · next hlt =>
      refine List.pairwise_cons.mpr ⟨fun e he => ?_, h⟩
      rcases List.mem_cons.mp he with rfl | he
      · exact hlt
      · exact String.lt_trans hlt (hfirst e he)
    · next hlt =>
      split
      · next heq =>
        exact List.pairwise_cons.mpr ⟨fun e he => heq ▸ hfirst e he, hrest⟩
      · next hne =>
        refine List.pairwise_cons.mpr ⟨fun e he => ?_, ih hrest⟩
        rcases mem_insertEntry he with rfl | he
        · exact lt_of_not_lt_of_ne hlt hne
        · exact hfirst e he

/-- Sets the value of a key. -/
def insert (d : Dictionary α) (key : String) (value : α) : Dictionary α :=
  ⟨insertEntry key value d.entries, sorted_insertEntry key value d.sorted⟩

/-- The entries of a list under their keys; of two with one key the later one counts. -/
def ofList (l : List (String × α)) : Dictionary α :=
  l.foldl (fun d (key, value) => d.insert key value) empty

/-- A key beyond all others is put at the end. -/
theorem insertEntry_eq_append {key : String} {value : α} {l : List (String × α)}
    (h : ∀ e ∈ l, e.1 < key) : insertEntry key value l = l ++ [(key, value)] := by
  induction l with
  | nil => rfl
  | cons first rest ih =>
    have hfirst := h first List.mem_cons_self
    have hne : key ≠ first.1 := fun e => String.lt_irrefl _ (e ▸ hfirst)
    simp only [insertEntry, String.lt_asymm hfirst, hne, if_false, List.cons_append,
      ih fun e he => h e (List.mem_cons_of_mem _ he)]

private theorem entries_foldl_insert (d : Dictionary α) {l : List (String × α)}
    (h : (d.entries ++ l).Pairwise fun a b => a.1 < b.1) :
    (l.foldl (fun d (key, value) => d.insert key value) d).entries = d.entries ++ l := by
  induction l generalizing d with
  | nil => simp
  | cons first rest ih =>
    have hins : (d.insert first.1 first.2).entries = d.entries ++ [first] :=
      insertEntry_eq_append fun e he =>
        (List.pairwise_append.mp h).2.2 e he first List.mem_cons_self
    rw [List.foldl_cons, ih]
    · rw [hins, List.append_assoc, List.singleton_append]
    · rw [hins, List.append_assoc, List.singleton_append]
      exact h

/-- A dictionary is determined by its entries in any list of them that is in key order. -/
theorem ofList_entries (d : Dictionary α) : ofList d.entries = d :=
  ext (by simpa [ofList, empty] using entries_foldl_insert empty (by simpa [empty] using d.sorted))

end Dictionary

end SchemaLang
