import SchemaLang.Text.Case

/-!
# Lower case texts

Lower case letters are their own lower case forms, so that a text in lower case stays what it is
when it is lowered again, also in front of another text. For the letters of the table this is read
off the runs: none leads into another one.

## Key results

- `CaseRun.map?_eq_none_of_avoids`: where a run leads, another one that it avoids does not go on
- `isLow_of_mem_lowerChars`: the letters of a text in lower case are their own lower case forms
- `lowerAfter_append`: a text is lowered letter by letter up to where other rules are needed
-/

namespace SchemaLang.Text

/-- The letter is its own lower case form, whatever stands around it. -/
def IsLow (c : Char) : Prop :=
  c ≠ 'Σ' ∧ lowerChar c = [c]

instance (c : Char) : Decidable (IsLow c) :=
  inferInstanceAs (Decidable (_ ∧ _))

/-- A front part whose letters are lowered one for one. -/
theorem lowerAfter_append {f : Char → Char} {front : List Char}
    (h : ∀ c ∈ front, c ≠ 'Σ' ∧ lowerChar c = [f c]) (before back : List Char) :
    lowerAfter before (front ++ back) =
      front.map f ++ lowerAfter (front.reverse ++ before) back := by
  induction front generalizing before with
  | nil => rfl
  | cons c rest ih =>
    obtain ⟨hsigma, hlower⟩ := h c List.mem_cons_self
    rw [List.cons_append, lowerAfter, if_neg hsigma, hlower,
      ih fun d hd => h d (List.mem_cons_of_mem _ hd)]
    simp

/-- A front part in lower case stays as it is. -/
theorem lowerAfter_append_of_isLow {front : List Char} (h : ∀ c ∈ front, IsLow c)
    (before back : List Char) :
    lowerAfter before (front ++ back) = front ++ lowerAfter (front.reverse ++ before) back := by
  have hfront := lowerAfter_append (f := id) h before back
  rwa [List.map_id] at hfront

/-- Letters of ASCII are lowered one for one. -/
theorem lower_of_ascii {c : Char} (h : c.toNat < 0x80) : c ≠ 'Σ' ∧ lowerChar c = [c.toLower] := by
  refine ⟨?_, lowerChar_of_ascii h⟩
  rintro rfl
  revert h
  decide

/-! ## Runs of the table -/

/-- The run does not lead into the other one: it leads past it on one side, or between its letters.
    -/
def CaseRun.avoids (run other : CaseRun) : Bool :=
  (run.target + (run.last - run.first)).blt other.first || other.last.blt run.target ||
    (other.stride == 2 && (run.stride == 2 || run.first == run.last) &&
      (run.target + other.first) % 2 == 1)

theorem CaseRun.map?_eq_some_iff {run : CaseRun} {code image : Nat} :
    run.map? code = some image ↔
      run.first ≤ code ∧ code ≤ run.last ∧ (code - run.first) % run.stride = 0 ∧
        run.target + (code - run.first) = image := by
  rw [map?]
  split
  · next h => simp_all
  · next h =>
    simp only [Bool.and_eq_true, decide_eq_true_eq, beq_iff_eq, not_and] at h
    simp only [reduceCtorEq, false_iff, not_and]
    exact fun hfirst hlast hstride => absurd hstride (h ⟨hfirst, hlast⟩)

/-- Where a run leads, another one that it avoids does not go on. -/
theorem CaseRun.map?_eq_none_of_avoids {run other : CaseRun} (h : run.avoids other = true)
    {code image : Nat} (hcode : run.map? code = some image) : other.map? image = none := by
  obtain ⟨hfirst, hlast, hstride, rfl⟩ := map?_eq_some_iff.mp hcode
  rw [Option.eq_none_iff_forall_ne_some]
  intro next hnext
  obtain ⟨hfirst', hlast', hstride', -⟩ := map?_eq_some_iff.mp hnext
  simp only [avoids, Bool.or_eq_true, Bool.and_eq_true, Nat.blt_eq, beq_iff_eq] at h
  rcases h with (hbelow | habove) | ⟨⟨htwo, hstep⟩, hodd⟩
  · omega
  · omega
  · -- The run keeps to one parity, and the other one to the other.
    rw [htwo] at hstride'
    rcases hstep with hstep | hsingle
    · rw [hstep] at hstride
      omega
    · omega

/-- The letter that has a rule of its own, as a run. -/
private def ruledLetter : CaseRun := ⟨0x130, 0x130, 1, 0⟩

/-- No run of the table leads into another one, nor to the letter that has a rule of its own. -/
private theorem avoids_of_mem_lowerRuns {run other : CaseRun} (hrun : run ∈ lowerRuns)
    (hother : other ∈ ruledLetter :: lowerRuns) : run.avoids other = true := by
  have hall : (lowerRuns.all fun run => (ruledLetter :: lowerRuns).all run.avoids) = true := by
    decide +kernel
  exact List.all_eq_true.mp (List.all_eq_true.mp hall run hrun) other hother

/-! ## Letters in lower case -/

/-- A statement about the letters of ASCII is checked letter by letter. -/
theorem forall_ascii {p : Char → Prop} (h : ∀ n < 0x80, p (Char.ofNat n)) {c : Char}
    (hc : c.toNat < 0x80) : p c := by
  have hp := h c.toNat hc
  rwa [Char.ofNat_toNat] at hp

/-- Where there is no letter with a code, the letter with the code zero stands in for it. -/
theorem toNat_ofNat_cases (n : Nat) : (Char.ofNat n).toNat = n ∨ Char.ofNat n = '\x00' := by
  by_cases hvalid : n.isValidChar
  · rw [Char.ofNat, dif_pos hvalid]
    exact .inl (UInt32.toNat_ofNatLT ..)
  · rw [Char.ofNat, dif_neg hvalid]
    exact .inr rfl

/-- The capital sigma is a letter of the table. -/
private theorem exists_map?_sigma : ∃ run ∈ lowerRuns, run.map? 'Σ'.toNat ≠ none := by
  decide

/-- A letter that no run holds and that has no rule of its own stays as it is. -/
private theorem isLow_of_map?_eq_none {c : Char} (hrule : c.toNat ≠ 0x130)
    (h : ∀ run ∈ lowerRuns, run.map? c.toNat = none) : IsLow c := by
  by_cases hascii : c.toNat < 0x80
  · -- The first run holds the capital letters of ASCII.
    have hfirst : CaseRun.map? ⟨0x41, 0x5A, 1, 0x61⟩ c.toNat = none := h _ List.mem_cons_self
    have hall : ∀ n < 0x80, CaseRun.map? ⟨0x41, 0x5A, 1, 0x61⟩ (Char.ofNat n).toNat = none →
        IsLow (Char.ofNat n) := by
      decide
    exact forall_ascii (p := fun c => CaseRun.map? ⟨0x41, 0x5A, 1, 0x61⟩ c.toNat = none → IsLow c)
      hall hascii hfirst
  · constructor
    · rintro rfl
      obtain ⟨run, hrun, hsigma⟩ := exists_map?_sigma
      exact hsigma (h run hrun)
    · rw [lowerChar, if_neg hascii, if_neg hrule, mapByRuns, List.findSome?_eq_none_iff.mpr h]

/-- Where a run of the table leads, there is a letter in lower case. -/
private theorem isLow_of_map?_eq_some {run : CaseRun} (hrun : run ∈ lowerRuns) {code image : Nat}
    (h : run.map? code = some image) : IsLow (Char.ofNat image) := by
  have hnone : ∀ other ∈ ruledLetter :: lowerRuns, other.map? image = none :=
    fun _ hother => CaseRun.map?_eq_none_of_avoids (avoids_of_mem_lowerRuns hrun hother) h
  obtain ⟨hrule, hruns⟩ := List.forall_mem_cons.mp hnone
  rcases toNat_ofNat_cases image with himage | hzero
  · refine isLow_of_map?_eq_none ?_ ?_
    · rw [himage]
      rintro rfl
      cases hrule
    · rw [himage]
      exact hruns
  · rw [hzero]
    decide

/-- What becomes of a letter is in lower case. -/
theorem isLow_of_mem_lowerChar {c d : Char} (h : d ∈ lowerChar c) : IsLow d := by
  rw [lowerChar] at h
  split at h
  · next hascii =>
    obtain rfl := List.mem_singleton.mp h
    have hall : ∀ n < 0x80, IsLow (Char.ofNat n).toLower := by decide
    exact forall_ascii (p := fun c => IsLow c.toLower) hall hascii
  · split at h
    · rcases List.mem_cons.mp h with rfl | h
      · decide
      · obtain rfl := List.mem_singleton.mp h
        decide
    · next hrule =>
      obtain rfl := List.mem_singleton.mp h
      rw [mapByRuns]
      cases hfound : lowerRuns.findSome? (·.map? c.toNat) with
      | none => exact isLow_of_map?_eq_none hrule (List.findSome?_eq_none_iff.mp hfound)
      | some image =>
        obtain ⟨run, hrun, himage⟩ := List.exists_of_findSome?_eq_some hfound
        exact isLow_of_map?_eq_some hrun himage

/-- What becomes of a text is in lower case. -/
theorem isLow_of_mem_lowerAfter {before s : List Char} {d : Char} (h : d ∈ lowerAfter before s) :
    IsLow d := by
  induction s generalizing before with
  | nil => cases h
  | cons c rest ih =>
    rw [lowerAfter, List.mem_append] at h
    rcases h with h | h
    · split at h
      · -- Both forms of the sigma are in lower case.
        obtain rfl := List.mem_singleton.mp h
        split <;> decide
      · exact isLow_of_mem_lowerChar h
    · exact ih h

/-- The letters of a text in lower case are their own lower case forms. -/
theorem isLow_of_mem_lowerChars {s : List Char} {d : Char} (h : d ∈ lowerChars s) : IsLow d :=
  isLow_of_mem_lowerAfter h

end SchemaLang.Text
