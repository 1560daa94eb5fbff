import SchemaLang.Proofs.Text.Case
import SchemaLang.Text.Blank

/-!
# Lower case and the case of ASCII letters

Texts are put in lower case by the full mapping, but compared up to the case of ASCII letters. The
lower case form knows less than the comparison: texts that are compared equal have one lower case
form. It is not compared equal to its own text, though, unless it changes no letters but those of
ASCII.

## Key results

- `asciiLower_lowerChars`, `lowerChars_asciiLower`: each form of lower case is kept by the other one
- `sameAsciiLetters_lower_iff`: which texts are compared equal to their lower case forms
- `lower_eq_of_sameAsciiLetters`: texts that are compared equal have one lower case form
- `dot_not_mem_lowerChars`: a dot is never the lower case form of a letter
- `mem_iff_of_asciiLower_eq`, `trim_map`: what does not depend on the case of letters
-/

namespace SchemaLang.Text

/-! ## Letters -/

/-- Letters beyond ASCII have no ASCII form. -/
theorem toLower_of_not_ascii {c : Char} (h : ¬ c.toNat < 0x80) : c.toLower = c := by
  refine dif_neg fun hupper => h ?_
  exact Nat.lt_of_le_of_lt (UInt32.le_iff_toNat_le.mp hupper.2) (by decide)

/-- A letter in lower case is its own ASCII form. -/
theorem toLower_of_isLow {c : Char} (h : IsLow c) : c.toLower = c := by
  by_cases hascii : c.toNat < 0x80
  · have hlower := h.2
    rw [lowerChar_of_ascii hascii] at hlower
    exact List.singleton_inj.mp hlower
  · exact toLower_of_not_ascii hascii

/-- Only the capital letters of ASCII have another ASCII form. -/
private theorem toLower_cases (c : Char) :
    c.toLower = c ∨ ∃ n < 26, c = Char.ofNat (0x41 + n) ∧ c.toLower = Char.ofNat (0x61 + n) := by
  by_cases hascii : c.toNat < 0x80
  · exact forall_ascii (p := fun c => c.toLower = c ∨
      ∃ n < 26, c = Char.ofNat (0x41 + n) ∧ c.toLower = Char.ofNat (0x61 + n)) (by decide) hascii
  · exact .inl (toLower_of_not_ascii hascii)

/-- What does not tell the capital letters of ASCII from the small ones is the same of a letter and
    of its ASCII form. -/
private theorem apply_toLower {α : Type} {f : Char → α}
    (h : ∀ n < 26, f (Char.ofNat (0x61 + n)) = f (Char.ofNat (0x41 + n))) (c : Char) :
    f c.toLower = f c := by
  rcases toLower_cases c with hsame | ⟨n, hn, hc, hlower⟩
  · rw [hsame]
  · rw [hlower, hc, h n hn]

theorem lowerChar_toLower (c : Char) : lowerChar c.toLower = lowerChar c :=
  apply_toLower (by decide) c

theorem toLower_toLower (c : Char) : c.toLower.toLower = c.toLower :=
  apply_toLower (by decide) c

theorem isAlpha_toLower (c : Char) : c.toLower.isAlpha = c.isAlpha :=
  apply_toLower (by decide) c

/-- What is no letter is its own ASCII form. -/
theorem toLower_of_not_isAlpha {c : Char} (h : c.isAlpha = false) : c.toLower = c := by
  rcases toLower_cases c with hsame | ⟨n, hn, rfl, -⟩
  · exact hsame
  · have hletter : ∀ n < 26, (Char.ofNat (0x41 + n)).isAlpha = true := by decide
    rw [hletter n hn] at h
    cases h

/-- And it is that of no other character. -/
theorem toLower_eq_iff {c d : Char} (hd : d.isAlpha = false) : c.toLower = d ↔ c = d := by
  constructor
  · rintro rfl
    rw [isAlpha_toLower] at hd
    exact (toLower_of_not_isAlpha hd).symm
  · rintro rfl
    exact toLower_of_not_isAlpha hd

/-- Characters with one ASCII form are the same unless they are letters. -/
theorem eq_or_isAlpha_of_toLower_eq {c d : Char} (h : c.toLower = d.toLower) :
    c = d ∨ c.isAlpha = true ∧ d.isAlpha = true := by
  cases hd : d.isAlpha with
  | true =>
    rw [← isAlpha_toLower, ← h, isAlpha_toLower] at hd
    exact .inr ⟨hd, rfl⟩
  | false =>
    rw [toLower_of_not_isAlpha hd] at h
    exact .inl ((toLower_eq_iff hd).mp h)

/-- Letters beyond ASCII have no capital ASCII form either. -/
theorem toUpper_of_not_ascii {c : Char} (h : ¬ c.toNat < 0x80) : c.toUpper = c := by
  refine dif_neg fun hlower => h ?_
  exact Nat.lt_of_le_of_lt (UInt32.le_iff_toNat_le.mp hlower.2) (by decide)

theorem toLower_toUpper (c : Char) : c.toUpper.toLower = c.toLower := by
  by_cases hascii : c.toNat < 0x80
  · exact forall_ascii (p := fun c => c.toUpper.toLower = c.toLower) (by decide) hascii
  · rw [toUpper_of_not_ascii hascii]

/-- A capital letter is no small one. -/
theorem isLower_toUpper (c : Char) : c.toUpper.isLower = false := by
  by_cases hascii : c.toNat < 0x80
  · exact forall_ascii (p := fun c => c.toUpper.isLower = false) (by decide) hascii
  · rw [toUpper_of_not_ascii hascii, Bool.eq_false_iff]
    intro hlower
    have hle : c.val ≤ 'z'.val := of_decide_eq_true (Bool.and_eq_true_iff.mp hlower).2
    exact hascii (Nat.lt_of_le_of_lt (UInt32.le_iff_toNat_le.mp hle) (by decide))

theorem meetsCased_cons (c : Char) (rest : List Char) :
    meetsCased (c :: rest) =
      if inRanges caseIgnorableRanges c then meetsCased rest else inRanges casedRanges c := by
  rw [meetsCased, List.dropWhile_cons]
  by_cases h : inRanges caseIgnorableRanges c = true
  · rw [if_pos h, if_pos h, meetsCased]
  · rw [if_neg h, if_neg h]

/-- Whether a letter follows does not depend on its case. -/
theorem meetsCased_asciiLower (s : List Char) : meetsCased (asciiLower s) = meetsCased s := by
  induction s with
  | nil => rfl
  | cons c rest ih =>
    have hignorable := apply_toLower (f := inRanges caseIgnorableRanges) (by decide +kernel) c
    have hcased := apply_toLower (f := inRanges casedRanges) (by decide +kernel) c
    have hcons : asciiLower (c :: rest) = c.toLower :: asciiLower rest := rfl
    rw [hcons, meetsCased_cons, meetsCased_cons, hignorable, hcased, ih]

/-! ## Texts -/

/-- A text in lower case is its own ASCII form. -/
theorem asciiLower_lowerChars (s : List Char) : asciiLower (lowerChars s) = lowerChars s :=
  (List.map_congr_left fun _ hc => toLower_of_isLow (isLow_of_mem_lowerChars hc)).trans
    (List.map_id' _)

/-- A text in lower case is its own lower case form. -/
theorem lowerChars_lowerChars (s : List Char) : lowerChars (lowerChars s) = lowerChars s := by
  have h := lowerAfter_append_of_isLow (fun _ hc => isLow_of_mem_lowerChars (s := s) hc) [] []
  rwa [List.append_nil, lowerAfter, List.append_nil] at h

private theorem lowerAfter_asciiLower (before s : List Char) :
    lowerAfter (asciiLower before) (asciiLower s) = lowerAfter before s := by
  induction s generalizing before with
  | nil => rfl
  | cons c rest ih =>
    have hrest : lowerAfter (c.toLower :: asciiLower before) (asciiLower rest) =
        lowerAfter (c :: before) rest := ih (c :: before)
    have hcons : asciiLower (c :: rest) = c.toLower :: asciiLower rest := rfl
    simp only [hcons, lowerAfter, toLower_eq_iff (d := 'Σ') rfl, lowerChar_toLower, meetsCased_asciiLower,
      hrest]

/-- The lower case form of a text is that of its ASCII form. -/
theorem lowerChars_asciiLower (s : List Char) : lowerChars (asciiLower s) = lowerChars s :=
  lowerAfter_asciiLower [] s

/-- All runs lead to letters behind the dot. -/
private theorem ne_dot_of_map? {run : CaseRun} (hrun : run ∈ lowerRuns) {code image : Nat}
    (h : run.map? code = some image) : Char.ofNat image ≠ '.' := by
  have hall : (lowerRuns.all fun run => Nat.blt '.'.toNat run.target) = true := by decide +kernel
  have hbehind := Nat.blt_eq.mp (List.all_eq_true.mp hall run hrun)
  obtain ⟨-, -, -, rfl⟩ := CaseRun.map?_eq_some_iff.mp h
  intro hdot
  rcases toNat_ofNat_cases (run.target + (code - run.first)) with himage | hzero
  · rw [hdot] at himage
    omega
  · exact absurd (hdot.symm.trans hzero) (by decide)

/-- No letter but the dot has the dot as its lower case form. -/
private theorem eq_of_dot_mem_lowerChar {c : Char} (h : '.' ∈ lowerChar c) : c = '.' := by
  rw [lowerChar] at h
  split at h
  · next hascii =>
    have hall : ∀ n < 0x80, '.' ∈ [(Char.ofNat n).toLower] → Char.ofNat n = '.' := by decide
    exact forall_ascii (p := fun c => '.' ∈ [c.toLower] → c = '.') hall hascii h
  · split at h
    · exact absurd h (by decide)
    · have hdot := List.mem_singleton.mp h
      rw [mapByRuns] at hdot
      split at hdot
      · next image himage =>
        obtain ⟨run, hrun, hmap⟩ := List.exists_of_findSome?_eq_some himage
        exact absurd hdot.symm (ne_dot_of_map? hrun hmap)
      · exact hdot.symm

private theorem dot_mem_of_mem_lowerAfter {before s : List Char} (h : '.' ∈ lowerAfter before s) :
    '.' ∈ s := by
  induction s generalizing before with
  | nil => exact h
  | cons c rest ih =>
    rw [lowerAfter, List.mem_append] at h
    rcases h with h | h
    · split at h
      · -- Neither form of the sigma is a dot.
        split at h
        · exact absurd h (by decide)
        · exact absurd h (by decide)
      · rw [eq_of_dot_mem_lowerChar h]
        exact List.mem_cons_self
    · exact List.mem_cons_of_mem _ (ih h)

/-- A text without a dot has none in lower case. -/
theorem dot_not_mem_lowerChars {s : List Char} (h : '.' ∉ s) : '.' ∉ lowerChars s :=
  fun hmem => h (dot_mem_of_mem_lowerAfter hmem)

/-! ## Texts that differ in letter case -/

theorem asciiLower_append (s t : List Char) :
    asciiLower (s ++ t) = asciiLower s ++ asciiLower t :=
  List.map_append

theorem asciiLower_eq_nil_iff {s : List Char} : asciiLower s = [] ↔ s = [] :=
  List.map_eq_nil_iff

theorem mem_asciiLower_iff {d : Char} (hd : d.isAlpha = false) {s : List Char} :
    d ∈ asciiLower s ↔ d ∈ s := by
  simp only [asciiLower, List.mem_map, toLower_eq_iff hd, exists_eq_right]

/-- Texts that differ in letter case hold the same characters beside letters. -/
theorem mem_iff_of_asciiLower_eq {s t : List Char} (h : asciiLower s = asciiLower t) {d : Char}
    (hd : d.isAlpha = false) : d ∈ s ↔ d ∈ t := by
  rw [← mem_asciiLower_iff hd, h, mem_asciiLower_iff hd]

theorem isBlank_toLower (c : Char) : isBlank c.toLower = isBlank c :=
  apply_toLower (by decide) c

/-! ## Blanks around texts in any case -/

section

variable {f : Char → Char} (hf : ∀ c, isBlank (f c) = isBlank c)

include hf

theorem trimStart_map (s : List Char) : trimStart (s.map f) = (trimStart s).map f := by
  rw [trimStart, List.dropWhile_map, trimStart]
  congr 2
  exact funext hf

theorem trimEnd_map (s : List Char) : trimEnd (s.map f) = (trimEnd s).map f := by
  have h := trimStart_map hf s.reverse
  rw [trimStart, trimStart] at h
  rw [trimEnd, dropEndWhile, trimEnd, dropEndWhile, ← List.map_reverse, h, List.map_reverse]

/-- What moves no blank can be done before a text is trimmed or behind that. -/
theorem trim_map (s : List Char) : trim (s.map f) = (trim s).map f := by
  rw [trim, trimStart_map hf, trimEnd_map hf, trim]

end

theorem trimStart_asciiLower (s : List Char) : trimStart (asciiLower s) = asciiLower (trimStart s) :=
  trimStart_map isBlank_toLower s

theorem trim_asciiLower (s : List Char) : trim (asciiLower s) = asciiLower (trim s) :=
  trim_map isBlank_toLower s

/-! ## Comparison -/

/-- Lowering the text changes no letters but those of ASCII. -/
def LowersAsAscii (s : String) : Prop :=
  lowerChars s.toList = asciiLower s.toList

instance (s : String) : Decidable (LowersAsAscii s) :=
  inferInstanceAs (Decidable (_ = _))

/-- Which texts are compared equal to their lower case forms. -/
theorem sameAsciiLetters_lower_iff {s : String} :
    sameAsciiLetters s (lower s) = true ↔ LowersAsAscii s := by
  rw [sameAsciiLetters_iff, lower, String.toList_ofList, asciiLower_lowerChars, LowersAsAscii,
    eq_comm]

/-- A text that is compared equal to the lower case form of another one has the same. -/
theorem lower_eq_of_sameAsciiLetters {s t : String} (h : sameAsciiLetters s (lower t) = true) :
    lower s = lower t := by
  rw [sameAsciiLetters_iff, lower, String.toList_ofList, asciiLower_lowerChars] at h
  rw [lower, lower, ← lowerChars_asciiLower s.toList, h, lowerChars_lowerChars]

end SchemaLang.Text
