import SchemaLang.Proofs.Draft.Columns
import SchemaLang.Proofs.Draft.Placement

/-!
# Parameters of types

The size of a column can be written in three ways: in round brackets behind the type, in square
brackets with keys, or with keys among the attributes. A blank decides whether a bracket belongs to
the type or to the attributes, and two parts of the compiler read what is in it. Here all three come
to one column, be the numbers too large to be kept or not.

## Key results

- `Text.readWord32?_decimal`: which numbers are kept
- `Size.applyParameters_positional`, `Size.applyParameters_keyed`, `ColumnDraft.foldl_apply_keyed`:
  the three readings of parameters
- `TypeSpec.ofToken_attached`: a type with a group attached to it
- `StandsIn.yieldsColumn_sizedLine`: the column of a line with parameters
-/

namespace SchemaLang

/-! ## Numbers -/

namespace Text

theorem isDigit_of_mem_decimal {n : Nat} {c : Char} (h : c ∈ (decimal n).toList) :
    c.isDigit = true := by
  rw [decimal, Nat.toList_repr] at h
  exact Nat.isDigit_of_mem_toDigits (by decide) (by decide) h

theorem isName_decimal (n : Nat) : IsName (decimal n).toList := by
  refine ⟨by rw [decimal, Nat.toList_repr]; exact Nat.toDigits_ne_nil, fun c hc => ?_⟩
  have hdigit : c.isDigit = true := isDigit_of_mem_decimal hc
  have hascii : c.toNat < 0x80 := Nat.lt_of_le_of_lt (Char.isDigit_iff_toNat.mp hdigit).2 (by decide)
  simp [isNameChar, hascii, Char.isAlphanum, hdigit]

/-- A number is read as itself if it is a 32-bit word, and not at all otherwise. -/
theorem readWord32?_decimal (n : Nat) : readWord32? (decimal n).toList = word32? n := by
  have hsign : (decimal n).toList.head? ≠ some '+' := fun h =>
    absurd (isDigit_of_mem_decimal (List.mem_of_head? h)) (by decide)
  have hdigits : (decimal n).toList ≠ [] ∧ (decimal n).toList.all Char.isDigit = true :=
    ⟨(isName_decimal n).1, List.all_eq_true.mpr fun c hc => isDigit_of_mem_decimal hc⟩
  have hvalue : digitsValue (decimal n).toList = n := by
    rw [decimal, Nat.toList_repr]
    exact Nat.ofDigitChars_ten_toDigits
  rw [readWord32?, if_neg hsign, if_pos hdigits, hvalue]

/-- A number has no quotes to take off. -/
theorem unquote_of_isName {s : List Char} (h : IsName s) : unquote s = s := by
  obtain ⟨c, rest, rfl⟩ := List.exists_cons_of_ne_nil h.1
  have hc : isNameChar c = true := h.2 c List.mem_cons_self
  have hbody : quotedBody? (c :: rest) = none := by
    simp [quotedBody?, stripQuotes?, ne_of_isNameChar (d := '"') hc rfl,
      ne_of_isNameChar (d := '\'') hc rfl]
  rw [unquote, trim_of_isName h, hbody, Option.getD_none]

/-- The numbers that are kept are those of 32 bits. -/
theorem map_toNat_word32? (n : Nat) :
    (word32? n).map UInt32.toNat = if n < UInt32.size then some n else none := by
  rw [word32?]
  by_cases h : n < UInt32.size
  · rw [dif_pos h, if_pos h, Option.map_some, UInt32.toNat_ofNatLT]
  · rw [dif_neg h, if_neg h, Option.map_none]

end Text

/-! ## Reading parameters -/

theorem SizePart.isName_key (part : SizePart) : Text.IsName part.key.toList := by
  cases part <;> decide +kernel

/-- A parameter with its key. -/
def keyedText (parameter : SizePart × Nat) : List Char :=
  writeAssignment parameter.1.key.toList (Text.decimal parameter.2).toList

/-- A parameter in the place of its part. -/
def placedText (parameter : SizePart × Nat) : List Char :=
  (Text.decimal parameter.2).toList

namespace Size

/-- Sets one part to a number, unless it is too large to be kept. -/
def setNumber (size : Size) (parameter : SizePart × Nat) : Size :=
  match Text.word32? parameter.2 with
  | some n => size.set parameter.1 n
  | none => size

theorem setText_decimal (size : Size) (part : SizePart) (n : Nat) :
    size.setText part (Text.decimal n).toList = size.setNumber (part, n) := by
  rw [setText, Text.unquote_of_isName (Text.isName_decimal n), Text.readWord32?_decimal]
  rfl

theorem setText_blank_cons (size : Size) (part : SizePart) (value : List Char) :
    size.setText part (' ' :: value) = size.setText part value := by
  rw [setText, Text.unquote_blank_cons rfl, ← setText]

/-- Parameters with keys are applied to the parts that the keys name. -/
theorem applyParameters_keyed (type : FieldType) (place : Nat) (size : Size)
    (parameters : List (SizePart × Nat)) :
    applyParameters type place size (parameters.map keyedText) =
      parameters.foldl setNumber size := by
  induction parameters generalizing size with
  | nil => rfl
  | cons parameter rest ih =>
    obtain ⟨part, n⟩ := parameter
    have hkey : SizePart.ofKey? (Text.trim part.key.toList) = some part := by
      cases part <;> decide
    rw [List.map_cons, applyParameters, keyedText, cutAt?_writeAssignment part.isName_key]
    simp only [hkey]
    rw [setText_blank_cons, setText_decimal, ih, List.foldl_cons]

/-- From a place on, the parts are those that the type has in these places. -/
def AreInPlace (type : FieldType) : Nat → List (SizePart × Nat) → Prop
  | _, [] => True
  | place, (part, _) :: rest => partInPlace? type place = some part ∧ AreInPlace type (place + 1) rest

/-- Parameters without keys are applied to the parts in their places. A number that is too large
    takes its place too. -/
theorem applyParameters_positional {type : FieldType} {place : Nat} (size : Size)
    {parameters : List (SizePart × Nat)} (h : AreInPlace type place parameters) :
    applyParameters type place size (parameters.map placedText) =
      parameters.foldl setNumber size := by
  induction parameters generalizing place size with
  | nil => rfl
  | cons parameter rest ih =>
    obtain ⟨part, n⟩ := parameter
    have hnokey : Text.cutAt? ':' (Text.decimal n).toList = none :=
      Text.cutAt?_eq_none_iff.mpr fun hc => absurd (Text.isDigit_of_mem_decimal hc) (by decide)
    obtain ⟨hpart, hrest⟩ := h
    rw [List.map_cons, applyParameters, placedText, hnokey]
    simp only [hpart]
    rw [setText_decimal, ih _ hrest, List.foldl_cons]

end Size

/-- Attributes that set the size are applied in order. -/
theorem ColumnDraft.foldl_apply_keyed (registry : Registry) (parameters : List (SizePart × Nat))
    (c : ColumnDraft) :
    ((parameters.map keyedText).filterMap (Attribute.ofItem? registry)).foldl apply c =
      { c with field := { c.field with size := parameters.foldl Size.setNumber c.field.size } } := by
  induction parameters generalizing c with
  | nil => rfl
  | cons parameter rest ih =>
    obtain ⟨part, n⟩ := parameter
    have hitem : Attribute.ofItem? registry (keyedText (part, n)) =
        some (.size part (' ' :: (Text.decimal n).toList)) := by
      rw [Attribute.ofItem?, keyedText, cutAt?_writeAssignment part.isName_key]
      cases part <;> rfl
    rw [List.map_cons, List.filterMap_cons_some hitem, List.foldl_cons, ih, List.foldl_cons, apply,
      Size.setText_blank_cons, Size.setText_decimal]

/-! ## Types with parameters -/

namespace TypeSpec

/-- A name has no bracket in it. -/
theorem isOpener_of_isNameChar {c : Char} (h : Text.isNameChar c = true) :
    Nesting.isOpener c = false := by
  have hplain := Text.isPlain_of_isNameChar h
  simp only [Nesting.isPlain, Bool.not_eq_true', Bool.or_eq_false_iff] at hplain
  exact hplain.1.2

variable {w : List Char}

/-- Up to a bracket that follows it, a type word is the name of the type. -/
theorem takeWhile_dropWhile_of_isName (h : Text.IsName w) (rest : List Char)
    (hrest : ∀ c ∈ rest.head?, Nesting.isOpener c = true) :
    (w ++ rest).takeWhile (!Nesting.isOpener ·) = w ∧
      (w ++ rest).dropWhile (!Nesting.isOpener ·) = rest := by
  have hw : ∀ c ∈ w, (!Nesting.isOpener c) = true := fun c hc => by
    simp [isOpener_of_isNameChar (h.2 c hc)]
  rw [List.takeWhile_append_of_pos hw, List.dropWhile_append_of_pos hw]
  cases rest with
  | nil => simp
  | cons c rest => simp [hrest c rfl]

/-- A type word by itself has no parameters. -/
theorem ofToken_of_isName (h : Text.IsName w) :
    ofToken w = .column ((FieldType.ofToken? w).getD .string) {} := by
  obtain ⟨htake, hdrop⟩ := takeWhile_dropWhile_of_isName h [] nofun
  have hassociation : associationTable? w = none := by
    rw [Option.eq_none_iff_forall_ne_some]
    intro table htable
    rw [associationTable?_eq_some_iff.mp htable] at h
    exact absurd (h.2 ']' (by simp)) (by decide)
  rw [List.append_nil] at htake hdrop
  rw [ofToken, hassociation, parameterText, htake, hdrop]
  rfl

/-- A type word with a group attached to it has the items of the group for parameters. -/
theorem ofToken_attached (h : Text.IsName w) {texts : List (List Char)}
    (htexts : ∀ s ∈ texts, IsItem ',' s) (hne : texts ≠ []) {opener closer : Char}
    (hopener : Nesting.isOpener opener = true) (hcloser : Nesting.isCloser closer = true) :
    ofToken (w ++ opener :: ([',', ' '].intercalate texts ++ [closer])) =
      .column ((FieldType.ofToken? w).getD .string)
        (Size.applyParameters ((FieldType.ofToken? w).getD .string) 0 {} texts) := by
  have hitems : items ',' ([',', ' '].intercalate texts) = texts :=
    items_intercalate (by decide) (by decide) htexts
  have hlevel := Token.isLevel_intercalate htexts
  generalize [',', ' '].intercalate texts = inner at hitems hlevel ⊢
  have hinner : inner ≠ [] := by
    rintro rfl
    exact hne hitems.symm
  -- Neither bracket of an association stands in a level text.
  have hends : ∀ c ∈ inner.getLast?, Nesting.isOpener c = false ∧ Nesting.isCloser c = false := by
    intro c hc
    rcases hlevel.of_mem_getLast? c hc with hplain | rfl
    · simp only [Nesting.isPlain, Bool.not_eq_true', Bool.or_eq_false_iff] at hplain
      exact ⟨hplain.1.2, hplain.2⟩
    · decide
  have hassociation : associationTable? (w ++ opener :: (inner ++ [closer])) = none := by
    rw [Option.eq_none_iff_forall_ne_some]
    intro table htable
    have hsplit : w ++ opener :: inner ++ [closer] = table ++ ['['] ++ [']'] := by
      simpa using associationTable?_eq_some_iff.mp htable
    have hlast : (w ++ opener :: inner).getLast? = some '[' := by
      rw [List.append_inj_left' hsplit rfl, List.getLast?_concat]
    rw [List.getLast?_append_of_ne_nil _ (List.cons_ne_nil _ _),
      List.getLast?_cons_of_ne_nil hinner] at hlast
    exact absurd (hends '[' hlast).1 (by decide)
  obtain ⟨htake, hdrop⟩ := takeWhile_dropWhile_of_isName h (opener :: (inner ++ [closer]))
    (by simpa using hopener)
  have hparameters : parameterText (w ++ opener :: (inner ++ [closer])) = inner := by
    rw [parameterText, hdrop, List.drop_one, List.tail_cons, Text.dropEndWhile_append_singleton,
      if_pos hcloser, Text.dropEndWhile_eq_self fun c hc => (hends c hc).2]
  rw [ofToken, hassociation, hparameters, htake, hitems]

end TypeSpec

/-! ## Lines with parameters -/

/-- Where the parameters of a type stand. -/
inductive Spelling where
  /-- In round brackets attached to the type, by their places. -/
  | placed
  /-- In square brackets attached to the type, by their keys. -/
  | attached
  /-- In square brackets behind a blank, among the attributes. -/
  | detached
  deriving DecidableEq, Repr

/-- The line of a column with parameters. -/
def sizedLine (field type : String) (parameters : List (SizePart × Nat)) : Spelling → String
  | .placed =>
    field ++ " " ++ type ++ "(" ++
      ", ".intercalate (parameters.map fun (_, n) => Text.decimal n) ++ ")"
  | .attached =>
    field ++ " " ++ type ++ "[" ++
      ", ".intercalate (parameters.map fun (part, n) => part.key ++ ": " ++ Text.decimal n) ++ "]"
  | .detached =>
    field ++ " " ++ type ++ " [" ++
      ", ".intercalate (parameters.map fun (part, n) => part.key ++ ": " ++ Text.decimal n) ++ "]"

/-- The declaration that is written to such a line. -/
def sizedDeclaration (field type : String) (parameters : List (SizePart × Nat)) :
    Spelling → Declaration
  | .placed =>
    .field field.toList
      (type.toList ++ '(' :: ([',', ' '].intercalate (parameters.map placedText) ++ [')'])) none
  | .attached =>
    .field field.toList
      (type.toList ++ '[' :: ([',', ' '].intercalate (parameters.map keyedText) ++ [']'])) none
  | .detached =>
    .field field.toList type.toList (some ([',', ' '].intercalate (parameters.map keyedText)))

theorem toList_sizedLine (field type : String) (parameters : List (SizePart × Nat))
    (spelling : Spelling) :
    (sizedLine field type parameters spelling).toList =
      Token.write (sizedDeclaration field type parameters spelling).tokens := by
  have hplaced : (", ".intercalate (parameters.map fun (_, n) => Text.decimal n)).toList =
      [',', ' '].intercalate (parameters.map placedText) := by
    rw [String.toList_intercalate, List.map_map]
    rfl
  have hkeyed : (", ".intercalate
        (parameters.map fun (part, n) => part.key ++ ": " ++ Text.decimal n)).toList =
      [',', ' '].intercalate (parameters.map keyedText) := by
    rw [String.toList_intercalate, List.map_map]
    exact congrArg _ (List.map_congr_left fun _ _ => by simp [keyedText, writeAssignment])
  cases spelling with
  | placed =>
    simp [sizedLine, sizedDeclaration, Declaration.tokens, Token.write, Token.text, hplaced]
  | attached =>
    simp [sizedLine, sizedDeclaration, Declaration.tokens, Token.write, Token.text, hkeyed]
  | detached =>
    simp [sizedLine, sizedDeclaration, Declaration.tokens, Token.write, Token.text, hkeyed]

theorem isItem_keyedText (parameter : SizePart × Nat) : IsItem ',' (keyedText parameter) :=
  .assignment parameter.1.isName_key (.of_isName (Text.isName_decimal parameter.2))

theorem isItem_placedText (parameter : SizePart × Nat) : IsItem ',' (placedText parameter) :=
  .of_isName (Text.isName_decimal parameter.2)

section

variable {source f w : String} {i j : Nat} {indent : List Char} {parameters : List (SizePart × Nat)}
  {spelling : Spelling} {type : FieldType}

/-- In all three spellings, a line with parameters in their places declares one column. -/
theorem StandsIn.yieldsColumn_sizedLine (hf : IsFieldName f) (hw : Text.IsName w.toList)
    (htype : (FieldType.ofToken? w.toList).getD .string = type)
    (hindent : indent.all Text.isAsciiBlank = true) (hne : parameters ≠ [])
    (hplaces : Size.AreInPlace type 0 parameters)
    (h : StandsIn source i j (indent ++ (sizedLine f w parameters spelling).toList)) :
    YieldsColumn source i j
      { field := { name := f, type, size := parameters.foldl Size.setNumber {} } } := by
  have hkeyed : ∀ s ∈ parameters.map keyedText, IsItem ',' s :=
    List.forall_mem_map.mpr fun parameter _ => isItem_keyedText parameter
  have hplaced : ∀ s ∈ parameters.map placedText, IsItem ',' s :=
    List.forall_mem_map.mpr fun parameter _ => isItem_placedText parameter
  rw [toList_sizedLine] at h
  subst htype
  cases spelling with
  | placed =>
    have hspec := TypeSpec.ofToken_attached hw hplaced (by simpa using hne)
      (show Nesting.isOpener '(' = true from rfl) (show Nesting.isCloser ')' = true from rfl)
    rw [Size.applyParameters_positional _ hplaces] at hspec
    exact h.yieldsColumn_bare hindent hf (Token.isPlain_attached hw hplaced rfl rfl) hspec
  | attached =>
    have hspec := TypeSpec.ofToken_attached hw hkeyed (by simpa using hne)
      (show Nesting.isOpener '[' = true from rfl) (show Nesting.isCloser ']' = true from rfl)
    rw [Size.applyParameters_keyed] at hspec
    exact h.yieldsColumn_bare hindent hf (Token.isPlain_attached hw hkeyed rfl rfl) hspec
  | detached =>
    have hplain : (Token.word w.toList).IsPlain :=
      ⟨Token.isClosed_of_isName hw, Text.isOneLine_of_isName hw⟩
    have hyields := h.yieldsColumn_items hindent hf hplain (TypeSpec.ofToken_of_isName hw) hkeyed
    rwa [ColumnDraft.foldl_apply_keyed] at hyields

/-- Three spellings of the parameters of a type come to one column, with each number in its part if it
    is a 32-bit word. A number that is none is left out, and changes nothing else. -/
theorem spellings_agree (hf : IsFieldName f) (hw : Text.IsName w.toList)
    (hindent : indent.all Text.isAsciiBlank = true) :
    (FieldType.ofToken? w.toList = some .decimal → ∀ (p s : Nat) (spelling : Spelling) source i j,
      StandsIn source i j
        (indent ++ (sizedLine f w [(.precision, p), (.scale, s)] spelling).toList) →
      YieldsColumn source i j { field :=
        { name := f, type := .decimal
          size := { precision := Text.word32? p, scale := Text.word32? s } } }) ∧
    (FieldType.ofToken? w.toList ≠ some .decimal → ∀ (n : Nat) (spelling : Spelling) source i j,
      StandsIn source i j (indent ++ (sizedLine f w [(.length, n)] spelling).toList) →
      YieldsColumn source i j { field :=
        { name := f, type := (FieldType.ofToken? w.toList).getD .string
          size := { length := Text.word32? n } } }) ∧
    ∀ n, (Text.word32? n).map UInt32.toNat = if n < UInt32.size then some n else none := by
  refine ⟨fun hdecimal p s spelling source i j h => ?_, fun hother n spelling source i j h => ?_,
    Text.map_toNat_word32?⟩
  · have hplaces : Size.AreInPlace .decimal 0 [(.precision, p), (.scale, s)] := ⟨rfl, rfl, trivial⟩
    have hsize : [(SizePart.precision, p), (.scale, s)].foldl Size.setNumber {} =
        { precision := Text.word32? p, scale := Text.word32? s } := by
      cases hp : Text.word32? p <;> cases hs : Text.word32? s <;>
        simp [Size.setNumber, Size.set, hp, hs]
    rw [← hsize]
    exact h.yieldsColumn_sizedLine hf hw (by rw [hdecimal]; rfl) hindent (by simp) hplaces
  · have htype : (FieldType.ofToken? w.toList).getD .string ≠ .decimal := by
      cases hword : FieldType.ofToken? w.toList with
      | none => decide
      | some type => simpa [hword] using hother
    have hplaces : Size.AreInPlace ((FieldType.ofToken? w.toList).getD .string) 0 [(.length, n)] := by
      refine ⟨?_, trivial⟩
      generalize (FieldType.ofToken? w.toList).getD .string = type at htype
      cases type with
      | decimal => exact absurd rfl htype
      | _ => rfl
    have hsize : [(SizePart.length, n)].foldl Size.setNumber {} = { length := Text.word32? n } := by
      cases hn : Text.word32? n <;> simp [Size.setNumber, Size.set, hn]
    rw [← hsize]
    exact h.yieldsColumn_sizedLine hf hw rfl hindent (by simp) hplaces

end

/-- Legs with parameters in all spellings, some too large to be kept. -/
def sizedLegs : String :=
  "table Leg \x7b
  fare Decimal(10, 4294967296)
  fare Decimal[precision: 10, scale: 4294967296]
  fare Decimal [precision: 10, scale: 4294967296]
  code Code(4294967295)
  code Code[length: 4294967295]
  code Code [length: 4294967295]
\x7d"

theorem spellings_agree_sizedLegs :
    (∀ place ∈ [(0, Spelling.placed), (1, .attached), (2, .detached)],
      YieldsColumn sizedLegs 0 place.1 { field :=
        { name := "fare", type := .decimal, size := { precision := some 10, scale := none } } }) ∧
    ∀ place ∈ [(3, Spelling.placed), (4, .attached), (5, .detached)],
      YieldsColumn sizedLegs 0 place.1 { field :=
        { name := "code", type := .string, size := { length := some 4294967295 } } } := by
  have hfare : ∀ place ∈ [(0, Spelling.placed), (1, .attached), (2, .detached)],
      StandsIn sizedLegs 0 place.1 ("  ".toList ++
        (sizedLine "fare" "Decimal" [(.precision, 10), (.scale, 4294967296)] place.2).toList) := by
    intro place hplace
    refine .of_getElem? (place.1 + 1) [] "Leg".toList
      (Statement.ofTexts (((Text.lines sizedLegs.toList).take (place.1 + 1)).drop 1)) ?_
    revert place
    decide +kernel
  have hcode : ∀ place ∈ [(3, Spelling.placed), (4, .attached), (5, .detached)],
      StandsIn sizedLegs 0 place.1 ("  ".toList ++
        (sizedLine "code" "Code" [(.length, 4294967295)] place.2).toList) := by
    intro place hplace
    refine .of_getElem? (place.1 + 1) [] "Leg".toList
      (Statement.ofTexts (((Text.lines sizedLegs.toList).take (place.1 + 1)).drop 1)) ?_
    revert place
    decide +kernel
  have hindent : "  ".toList.all Text.isAsciiBlank = true := by decide
  obtain ⟨hdecimal, -, -⟩ := spellings_agree (show IsFieldName "fare" by decide +kernel)
    (show Text.IsName "Decimal".toList by decide +kernel) hindent
  obtain ⟨-, hother, -⟩ := spellings_agree (show IsFieldName "code" by decide +kernel)
    (show Text.IsName "Code".toList by decide +kernel) hindent
  have hkept : Text.word32? 10 = some 10 ∧ Text.word32? 4294967296 = none ∧
      Text.word32? 4294967295 = some 4294967295 ∧
      (FieldType.ofToken? "Code".toList).getD .string = .string := by
    decide +kernel
  refine ⟨fun place hplace => ?_, fun place hplace => ?_⟩
  · have hfields := hdecimal (by decide +kernel) _ _ _ _ _ _ (hfare place hplace)
    rwa [hkept.1, hkept.2.1] at hfields
  · have hcodes := hother (by decide +kernel) _ _ _ _ _ (hcode place hplace)
    rwa [hkept.2.2.1, hkept.2.2.2] at hcodes

end SchemaLang
