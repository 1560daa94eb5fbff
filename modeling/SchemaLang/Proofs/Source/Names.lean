import SchemaLang.Proofs.Source.Braces
import SchemaLang.Proofs.Source.Level

/-!
# Names

A name is made of letters, digits and underscores. No scanner stops in it: it is a closed word, with
brackets attached or not, and a field line that begins with one is a field line unless the name is
one of the two keywords.

## Key results

- `Token.isClosed_of_isName`, `Token.isClosed_attached`: a name is a closed word, alone and with
  brackets behind it
- `Token.isClosed_group`: a level text in square brackets is a closed group
- `Token.isPlain_group`, `Token.isPlain_attached`: items can stand in brackets on a line
- `IsItem.assignment`, `cutAt?_writeAssignment`: a value with its key is an item, and is cut behind
  the key
- `Declaration.isReadable_field`: a field with a name can be read
-/

namespace SchemaLang

namespace Text

/-- A letter or a digit, of any script, or an underscore. What stands outside ASCII counts as a letter
    unless it is blank. -/
def isNameChar (c : Char) : Bool :=
  if c.toNat < 0x80 then c.isAlphanum || c == '_' else !isBlank c

/-- A text of letters and digits. -/
def IsName (s : List Char) : Prop :=
  s ≠ [] ∧ ∀ c ∈ s, isNameChar c = true

instance (s : List Char) : Decidable (IsName s) :=
  decidable_of_iff (s ≠ [] ∧ s.all isNameChar = true) (by simp [IsName])

theorem isBlank_of_isNameChar {c : Char} (h : isNameChar c = true) : isBlank c = false := by
  by_cases hascii : c.toNat < 0x80
  · have hall : ∀ n, n < 0x80 → isNameChar (Char.ofNat n) = true →
        isBlank (Char.ofNat n) = false := by
      decide +kernel
    simpa [h] using hall c.toNat hascii
  · simpa [isNameChar, hascii] using h

/-- A name holds none of the characters that make up the syntax. -/
theorem ne_of_isNameChar {c d : Char} (h : isNameChar c = true) (hd : isNameChar d = false) :
    c ≠ d := by
  rintro rfl
  rw [h] at hd
  cases hd

theorem isPlain_of_isNameChar {c : Char} (h : isNameChar c = true) : Nesting.isPlain c = true :=
  Nesting.isPlain_of_pos (by decide) h

theorem endsWord_of_isNameChar {c : Char} (h : isNameChar c = true) : Token.endsWord c = false := by
  have hblank : isAsciiBlank c = false := by
    rw [Bool.eq_false_iff]
    intro hc
    exact absurd (isBlank_of_isAsciiBlank hc) (by simp [isBlank_of_isNameChar h])
  simp [Token.endsWord, hblank, ne_of_isNameChar (d := '\x7b') h rfl,
    ne_of_isNameChar (d := '\x7d') h rfl]

/-- No blank stands in front of a name. -/
theorem isBlank_head_of_isName {s : List Char} (h : IsName s) (rest : List Char) :
    ∀ c ∈ (s ++ rest).head?, isBlank c = false := by
  obtain ⟨c, s, rfl⟩ := List.exists_cons_of_ne_nil h.1
  rintro _ ⟨⟩
  exact isBlank_of_isNameChar (h.2 c List.mem_cons_self)

/-- A name has no blanks around it. -/
theorem trim_of_isName {s : List Char} (h : IsName s) : trim s = s :=
  trim_eq_self
    (fun _ hc => isBlank_of_isNameChar (h.2 _ (List.mem_of_head? hc)))
    (fun _ hc => isBlank_of_isNameChar (h.2 _ (List.mem_of_getLast? hc)))

theorem isOneLine_of_isName {s : List Char} (h : IsName s) : IsOneLine s :=
  ⟨fun hc => absurd (h.2 _ hc) (by decide), fun hc => absurd (h.2 _ hc) (by decide)⟩

end Text

open Text

namespace Token

/-! ## Words -/

/-- A word goes on over a name. -/
theorem takeWord_append_of_isNameChar {s : List Char} (h : ∀ c ∈ s, isNameChar c = true)
    (rest : List Char) :
    takeWord .top (s ++ rest) = (s ++ (takeWord .top rest).1, (takeWord .top rest).2) := by
  induction s with
  | nil => rfl
  | cons c s ih =>
    obtain ⟨hc, hs⟩ := List.forall_mem_cons.mp h
    have hstep : Nesting.top.stepWord c = .top := by
      have hopener := isPlain_of_isNameChar hc
      simp only [Nesting.isPlain, Bool.not_eq_true', Bool.or_eq_false_iff] at hopener
      simp [Nesting.stepWord, Nesting.top, hopener]
    rw [List.cons_append, takeWord, if_neg (by simp [endsWord_of_isNameChar hc]), hstep, ih hs]
    rfl

/-- Inside brackets a word goes on up to the closer, and then behind it. -/
theorem takeWord_of_depth_ne_zero {n : Nesting} (h : n.depth ≠ 0) (s : List Char) :
    takeWord n s =
      ((takeEnclosed n s).1 ++ (takeWord .top (takeEnclosed n s).2).1,
        (takeWord .top (takeEnclosed n s).2).2) := by
  induction s generalizing n with
  | nil => rfl
  | cons c s ih =>
    have hopen : n.isTop = false := by simp [Nesting.isTop, h]
    rw [takeWord, if_neg (by simp [hopen]), takeEnclosed, Nesting.stepWord_of_depth_ne_zero h]
    by_cases hcloses : (n.step c).isTop = true
    · rw [if_pos hcloses, Nesting.isTop_iff.mp hcloses]
      rfl
    · rw [if_neg hcloses, ih fun hdepth => hcloses (Nesting.isTop_step_of_depth_eq_zero h hdepth)]
      rfl

/-- A word that goes on over all of a text and stops at the blank behind it is closed. -/
theorem isClosed_of_takeWord {w : List Char} (hstarts : ∀ c ∈ w.head?, startsWord c = true)
    (h : takeWord .top (w ++ " x".toList) = (w, " x".toList)) (hne : w ≠ []) :
    (word w).IsClosed := by
  obtain ⟨c, s, rfl⟩ := List.exists_cons_of_ne_nil hne
  have hc : startsWord c = true := hstarts c rfl
  have hgoes : ¬ (Nesting.top.isTop && endsWord c) = true := by
    simp only [startsWord, Bool.not_eq_true', Bool.or_eq_false_iff] at hc
    simp [hc]
  rw [List.cons_append, takeWord, if_neg hgoes, Prod.mk.injEq, List.cons.injEq] at h
  have hrest : ofLine " x".toList = [word "x".toList] := by decide +kernel
  rw [IsClosed, text, List.cons_append, ofLine_word hc, h.1.2, h.2, hrest]

section

variable {w : List Char}

theorem startsWord_of_isName (h : IsName w) (rest : List Char) :
    ∀ c ∈ (w ++ rest).head?, startsWord c = true := by
  obtain ⟨c, s, rfl⟩ := List.exists_cons_of_ne_nil h.1
  have hc : isNameChar c = true := h.2 c List.mem_cons_self
  rintro _ ⟨⟩
  simp [startsWord, endsWord_of_isNameChar hc, ne_of_isNameChar (d := '[') hc rfl]

/-- A name is a closed word. -/
theorem isClosed_of_isName (h : IsName w) : (word w).IsClosed := by
  refine isClosed_of_takeWord (by simpa using startsWord_of_isName h []) ?_ h.1
  rw [takeWord_append_of_isNameChar h.2]
  exact Prod.ext (List.append_nil w) rfl

/-- A group that is attached to a name is part of the word. -/
theorem isClosed_attached (h : IsName w) {inner : List Char} (hinner : IsLevel Nesting.isPlain inner)
    {opener closer : Char} (hopener : Nesting.isOpener opener = true)
    (hcloser : Nesting.isCloser closer = true) :
    (word (w ++ opener :: (inner ++ [closer]))).IsClosed := by
  refine isClosed_of_takeWord (startsWord_of_isName h _) ?_ (by simp)
  have hgoes : endsWord opener = false := by
    rcases Nesting.isOpener_eq_true_iff.mp hopener with rfl | rfl <;> rfl
  have hstep : Nesting.top.stepWord opener = .enclosed := by
    simp [Nesting.stepWord, Nesting.top, hopener]
  have hgroup : takeWord .top (opener :: (inner ++ closer :: " x".toList)) =
      (opener :: (inner ++ [closer]), " x".toList) := by
    rw [takeWord, if_neg (by simp [hgoes]), hstep, takeWord_of_depth_ne_zero (by decide),
      takeEnclosed_of_isLevel hinner hcloser]
    simp [takeWord, Nesting.top, Nesting.isTop, endsWord, isAsciiBlank]
  rw [List.append_assoc, takeWord_append_of_isNameChar h.2, List.cons_append, List.append_assoc,
    List.singleton_append, hgroup]

/-- A level text in square brackets is a closed group. -/
theorem isClosed_group {inner : List Char} (h : IsLevel Nesting.isPlain inner) :
    (group inner).IsClosed := by
  have hrest : ofLine " x".toList = [word "x".toList] := by decide +kernel
  rw [IsClosed, text, List.cons_append, List.append_assoc, List.singleton_append, ofLine_bracket,
    takeEnclosed_of_isLevel h rfl, hrest]
  simp [dropCloser]

end

end Token

/-! ## Items -/

/-- A value with its key, as it is written in a list. -/
def writeAssignment (key value : List Char) : List Char :=
  key ++ ':' :: ' ' :: value

namespace IsItem

theorem of_isName {s : List Char} (h : IsName s) : IsItem ',' s where
  level := .of_all <| List.all_eq_true.mpr fun c hc => by
    have hchar : isNameChar c = true := h.2 c hc
    simp [isPlain_of_isNameChar hchar, ne_of_isNameChar (d := ',') hchar rfl]
  trimmed := trim_of_isName h
  ne_nil := h.1
  oneLine := isOneLine_of_isName h

/-- A text in double quotes is an item, whatever it holds. -/
theorem of_quoted {s : List Char} (h : '"' ∉ s) (hline : IsOneLine s) :
    IsItem ',' ('"' :: (s ++ ['"'])) where
  level := .singleton h
  trimmed := trim_quoted s
  ne_nil := List.cons_ne_nil _ _
  oneLine := isOneLine_cons.mpr ⟨by decide, isOneLine_append.mpr ⟨hline, by decide⟩⟩

/-- So is a value with its key. -/
theorem assignment {key value : List Char} (hkey : IsName key) (hvalue : IsItem ',' value) :
    IsItem ',' (writeAssignment key value) := by
  have hfront : IsItem ',' (key ++ [':', ' '] ++ value) :=
    .append ((of_isName hkey).level.append (.of_all rfl)) (isBlank_head_of_isName hkey _)
      (isOneLine_append.mpr ⟨isOneLine_of_isName hkey, by decide⟩) hvalue
  simpa [writeAssignment] using hfront

end IsItem

/-- A key ends at its colon. -/
theorem cutAt?_writeAssignment {key : List Char} (h : IsName key) (value : List Char) :
    cutAt? ':' (writeAssignment key value) = some (key, ' ' :: value) :=
  cutAt?_append (fun hc => absurd (h.2 _ hc) (by decide)) _

namespace Token

variable {texts : List (List Char)}

theorem isLevel_intercalate (h : ∀ s ∈ texts, IsItem ',' s) :
    IsLevel Nesting.isPlain ([',', ' '].intercalate texts) :=
  .intercalate (.of_all rfl) fun s hs =>
    (h s hs).level.mono fun _ hc => (Bool.and_eq_true_iff.mp hc).1

/-- A group of items can stand on a line. -/
theorem isPlain_group (h : ∀ s ∈ texts, IsItem ',' s) :
    (group ([',', ' '].intercalate texts)).IsPlain := by
  refine ⟨isClosed_group (isLevel_intercalate h), ?_⟩
  rw [text, isOneLine_cons, isOneLine_append]
  exact ⟨by decide, isOneLine_intercalate (by decide) fun s hs => (h s hs).oneLine, by decide⟩

/-- So can a word that such a group is attached to. -/
theorem isPlain_attached {w : List Char} (hw : IsName w) (h : ∀ s ∈ texts, IsItem ',' s)
    {opener closer : Char} (hopener : Nesting.isOpener opener = true)
    (hcloser : Nesting.isCloser closer = true) :
    (word (w ++ opener :: ([',', ' '].intercalate texts ++ [closer]))).IsPlain := by
  refine ⟨isClosed_attached hw (isLevel_intercalate h) hopener hcloser, ?_⟩
  have hopens : IsOneLine [opener] := by
    rcases Nesting.isOpener_eq_true_iff.mp hopener with rfl | rfl <;> decide
  have hcloses : IsOneLine [closer] := by
    rcases Nesting.isCloser_eq_true_iff.mp hcloser with rfl | rfl <;> decide
  rw [text, ← List.singleton_append, isOneLine_append, isOneLine_append, isOneLine_append]
  exact ⟨isOneLine_of_isName hw, hopens,
    isOneLine_intercalate (by decide) fun s hs => (h s hs).oneLine, hcloses⟩

end Token

/-! ## Field lines -/

/-- A line that begins with a name counts. -/
theorem isSkipped_of_isName {name : List Char} (h : IsName name) : isSkipped name = false := by
  obtain ⟨c, s, rfl⟩ := List.exists_cons_of_ne_nil h.1
  have hc : isNameChar c = true := h.2 c List.mem_cons_self
  simp [isSkipped, trimStart, isBlank_of_isNameChar hc, ne_of_isNameChar (d := '#') hc rfl]

/-- A name that a field line can begin with: none of the words that make it another line. -/
def IsFieldName (name : String) : Prop :=
  IsName name.toList ∧ name ≠ "table" ∧ name ≠ "index"

instance (name : String) : Decidable (IsFieldName name) :=
  inferInstanceAs (Decidable (_ ∧ _))

/-- A field with such a name can be read. -/
theorem Declaration.isReadable_field {name : String} {type : List Char}
    {attributes : Option (List Char)} (h : IsFieldName name) (htype : (Token.word type).IsPlain)
    (hattributes : ∀ inner ∈ attributes, (Token.group inner).IsPlain) :
    (field name.toList type attributes).IsReadable :=
  ⟨⟨Token.isClosed_of_isName h.1, isOneLine_of_isName h.1⟩, htype, hattributes,
    fun htable => h.2.1 (String.toList_inj.mp htable),
    fun hindex => h.2.2 (String.toList_inj.mp hindex), isSkipped_of_isName h.1⟩

end SchemaLang
