import SchemaLang.Json.Reader
import SchemaLang.Json.Writer

/-!
# Reading back what is written

A JSON value whose numbers follow the grammar and whose strings have a text can be read back from
the text that is written of it. A reader stops where the written text ends: every lemma is stated
under an arbitrary rest of the text, which for a number must not go on with the number.

## Key results

- `readUnits_escaped`: an escaped text is read back
- `readUnsigned?_write`: a number is read back
- `WellFormed.readsBack`: a value is read back, whatever follows it
- `Json.ofDocument?_toDocument`: a document is read back
-/

namespace SchemaLang

/-! ## Values that can be read back -/

/-- A number as the grammar has it. -/
structure JsonNumber.WellFormed (n : JsonNumber) : Prop where
  /-- Only a single zero starts with a zero. -/
  whole : n.whole = ['0'] ∨ n.whole ≠ [] ∧ n.whole.head? ≠ some '0'
  digits : ∀ c ∈ n.whole ++ n.fraction, c.isDigit = true
  exponent : ∀ negative digits, n.exponent = some (negative, digits) →
    digits ≠ [] ∧ ∀ c ∈ digits, c.isDigit = true

/-- A well-formed number starts with a digit behind its sign. -/
theorem JsonNumber.WellFormed.exists_cons {n : JsonNumber} (h : n.WellFormed) :
    ∃ c tail, n.whole = c :: tail ∧ c.isDigit = true := by
  have hne : n.whole ≠ [] := by
    rcases h.whole with hzero | ⟨hne, -⟩
    · exact hzero ▸ List.cons_ne_nil _ _
    · exact hne
  obtain ⟨c, tail, hwhole⟩ := List.exists_cons_of_ne_nil hne
  exact ⟨c, tail, hwhole, h.digits c (by simp [hwhole])⟩

namespace Json

mutual

/-- Every string and key has a text, and every number follows the grammar. -/
def WellFormed : Json → Prop
  | number n => n.WellFormed
  | string text => text.isSome
  | array elements => ElementsWellFormed elements
  | object members => MembersWellFormed members
  | _ => True

/-- `WellFormed` for some elements. -/
def ElementsWellFormed : List Json → Prop
  | [] => True
  | v :: rest => v.WellFormed ∧ ElementsWellFormed rest

/-- `WellFormed` for some members. -/
def MembersWellFormed : List (Option String × Json) → Prop
  | [] => True
  | (key, v) :: rest => (key.isSome ∧ v.WellFormed) ∧ MembersWellFormed rest

end

theorem elementsWellFormed_iff {l : List Json} :
    ElementsWellFormed l ↔ ∀ v ∈ l, v.WellFormed := by
  induction l with
  | nil => simp [ElementsWellFormed]
  | cons v rest ih => simp [ElementsWellFormed, ih]

theorem membersWellFormed_iff {l : List (Option String × Json)} :
    MembersWellFormed l ↔ ∀ m ∈ l, m.1.isSome ∧ m.2.WellFormed := by
  induction l with
  | nil => simp [MembersWellFormed]
  | cons m rest ih => simp [MembersWellFormed, ih]

theorem wellFormed_array_iff {l : List Json} : (array l).WellFormed ↔ ∀ v ∈ l, v.WellFormed :=
  elementsWellFormed_iff

theorem wellFormed_record_iff {members : List (String × Json)} :
    (record members).WellFormed ↔ ∀ m ∈ members, m.2.WellFormed := by
  refine membersWellFormed_iff.trans ?_
  rw [List.forall_mem_map]
  exact forall₂_congr fun m _ => and_iff_right rfl

@[simp] theorem wellFormed_text (s : String) : (text s).WellFormed :=
  rfl

@[simp] theorem wellFormed_bool (b : Bool) : (bool b).WellFormed :=
  trivial

@[simp] theorem wellFormed_texts (l : List String) : (texts l).WellFormed := by
  rw [texts, wellFormed_array_iff, List.forall_mem_map]
  exact fun s _ => wellFormed_text s

/-- Decimal digits do not start with a zero. -/
private theorem head?_toDigits_ne_zero (n : Nat) (hn : n ≠ 0) :
    (Nat.toDigits 10 n).head? ≠ some '0' := by
  induction n using Nat.strongRecOn with
  | ind n ih =>
    by_cases hlt : n < 10
    · have hdigit : ∀ d < 10, d ≠ 0 → Nat.digitChar d ≠ '0' := by decide
      rw [Nat.toDigits_of_lt_base hlt, List.head?_cons, ne_eq, Option.some.injEq]
      exact hdigit n hlt hn
    · have hfront := ih (n / 10) (by omega) (by omega)
      obtain ⟨c, tail, hdigits⟩ := List.exists_cons_of_ne_nil (Nat.toDigits_ne_nil (b := 10)
        (n := n / 10))
      rw [Nat.toDigits_of_base_le (by decide) (by omega), hdigits, List.cons_append,
        List.head?_cons]
      rwa [hdigits, List.head?_cons] at hfront

@[simp] theorem wellFormed_nat (n : Nat) : (nat n).WellFormed := by
  have hdigits : ∀ c ∈ Nat.toDigits 10 n ++ [], c.isDigit = true := by
    rw [List.append_nil]
    exact fun c hc => Nat.isDigit_of_mem_toDigits (by decide) (by decide) hc
  refine { whole := ?_, digits := hdigits, exponent := nofun }
  by_cases hn : n = 0
  · subst hn
    exact .inl rfl
  · exact .inr ⟨Nat.toDigits_ne_nil, head?_toDigits_ne_zero n hn⟩

/-! ## Strings -/

private theorem hexDigit?_digitChar : ∀ n < 16, hexDigit? (Nat.digitChar n) = some n := by
  decide

/-- The unit is what a written character is read as: it is taken off the front of a string and
    stands for the character. -/
private def IsReadAs (c : Char) (unit : StringUnit) : Prop :=
  (∀ rest, readUnits (escapeChar c ++ rest) =
      (readUnits rest).map fun (units, left) => (unit :: units, left)) ∧
    ∀ units, decodeUnits (unit :: units) = (decodeUnits units).map (c :: ·)

/-- The escape of a control character is read as its number. -/
private theorem isReadAs_code {c : Char} (hc : c.toNat < 0x20)
    (h : escapeChar c =
      ['\\', 'u', '0', '0', Nat.digitChar (c.toNat / 16), Nat.digitChar (c.toNat % 16)]) :
    IsReadAs c (.code c.toNat) := by
  have hhigh := hexDigit?_digitChar (c.toNat / 16) (by omega)
  have hlow := hexDigit?_digitChar (c.toNat % 16) (by omega)
  have hzero : hexDigit? '0' = some 0 := rfl
  have hvalue : 16 * (c.toNat / 16) + c.toNat % 16 = c.toNat := by omega
  constructor
  · intro rest
    simp only [h, List.cons_append, List.nil_append, readUnits, hexUnit?, hzero, hhigh, hlow,
      Option.bind_eq_bind, Option.bind_some, Nat.mul_zero, Nat.zero_add, hvalue]
    cases readUnits rest <;> rfl
  · intro units
    have hsmall : c.toNat < 0xD800 ∨ 0xDFFF < c.toNat := by omega
    rw [decodeUnits.eq_def]
    simp only [if_pos hsmall, Char.ofNat_toNat]

/-- A short escape is read as its character. -/
private theorem isReadAs_escape {c e : Char} (h : escapeChar c = ['\\', e]) (he : e ≠ 'u')
    (hshort : shortEscape? e = some c) : IsReadAs c (.char c) := by
  constructor
  · intro rest
    rw [h, List.cons_append, List.singleton_append, readUnits]
    · simp only [hshort, Option.bind_eq_bind, Option.bind_some]
      cases readUnits rest <;> rfl
    · exact fun _ _ _ _ _ hu _ => he hu
  · exact fun _ => decodeUnits.eq_2 _ _

/-- What is written as itself is read as itself. -/
private theorem isReadAs_char {c : Char} (h : escapeChar c = [c]) (hquote : c ≠ '"')
    (hbackslash : c ≠ '\\') (hc : ¬ c.toNat < 0x20) : IsReadAs c (.char c) := by
  constructor
  · intro rest
    rw [h, List.singleton_append, readUnits]
    · rw [if_neg hc]
      cases readUnits rest <;> rfl
    · exact hquote
    · exact fun _ _ _ _ _ hb _ => hbackslash hb
    · exact fun _ _ hb _ => hbackslash hb
  · exact fun _ => decodeUnits.eq_2 _ _

/-- Every character is read as some unit. -/
private theorem exists_isReadAs (c : Char) : ∃ unit, IsReadAs c unit := by
  -- One step for each way of writing a character: seven short escapes, the number of a control
  -- character, and the character itself.
  have hescape := escapeChar.eq_def c
  split at hescape
  · next h => exact ⟨_, isReadAs_escape hescape (by decide) (by subst h; rfl)⟩
  next hquote =>
  split at hescape
  · next h => exact ⟨_, isReadAs_escape hescape (by decide) (by subst h; rfl)⟩
  next hbackslash =>
  split at hescape
  · next h => exact ⟨_, isReadAs_escape hescape (by decide) (by subst h; rfl)⟩
  split at hescape
  · next h => exact ⟨_, isReadAs_escape hescape (by decide) (by subst h; rfl)⟩
  split at hescape
  · next h => exact ⟨_, isReadAs_escape hescape (by decide) (by subst h; rfl)⟩
  split at hescape
  · next h => exact ⟨_, isReadAs_escape hescape (by decide) (by subst h; rfl)⟩
  split at hescape
  · next h => exact ⟨_, isReadAs_escape hescape (by decide) (by subst h; rfl)⟩
  split at hescape
  · next h => exact ⟨_, isReadAs_code h hescape⟩
  · next h => exact ⟨_, isReadAs_char hescape hquote hbackslash h⟩

/-- An escaped text is read up to its closing quote, and as the text. -/
theorem readUnits_escaped (text rest : List Char) :
    ∃ units, readUnits (text.flatMap escapeChar ++ '"' :: rest) = some (units, rest) ∧
      decodeUnits units = some text := by
  induction text with
  | nil => exact ⟨[], readUnits.eq_2 rest, rfl⟩
  | cons c text ih =>
    obtain ⟨units, hunits, htext⟩ := ih
    obtain ⟨unit, hread, hdecode⟩ := exists_isReadAs c
    refine ⟨unit :: units, ?_, ?_⟩
    · rw [List.flatMap_cons, List.append_assoc, hread, hunits]
      rfl
    · rw [hdecode, htext]
      rfl

/-- A written string is read behind its opening quote. -/
theorem readString_write (text : String) (rest : List Char) :
    ∃ h, readString (text.toList.flatMap escapeChar ++ '"' :: rest) =
      some ⟨(some text, rest), h⟩ := by
  obtain ⟨units, hunits, htext⟩ := readUnits_escaped text.toList rest
  refine ⟨length_lt_of_readUnits hunits, ?_⟩
  rw [readString]
  split
  · next hnone =>
    rw [hunits] at hnone
    cases hnone
  · next units' rest' hsome =>
    rw [hunits, Option.some.injEq, Prod.mk.injEq] at hsome
    obtain ⟨rfl, rfl⟩ := hsome
    simp only [htext, Option.map_some, String.ofList_toList]

/-! ## Numbers -/

/-- The text does not go on with a number. -/
def EndsNumber (rest : List Char) : Prop :=
  ∀ c, rest.head? = some c → c.isDigit = false ∧ c ≠ '.' ∧ c ≠ 'e' ∧ c ≠ 'E'

/-- The digits of a number are read up to a character that is none. -/
private theorem readDigits?_append {digits rest : List Char} (hne : digits ≠ [])
    (hdigits : ∀ c ∈ digits, c.isDigit = true)
    (hrest : ∀ c, rest.head? = some c → c.isDigit = false) :
    readDigits? (digits ++ rest) = some (digits, rest) := by
  have hend : rest.takeWhile Char.isDigit = [] ∧ rest.dropWhile Char.isDigit = rest := by
    cases rest with
    | nil => exact ⟨rfl, rfl⟩
    | cons c tail =>
      have hc := hrest c rfl
      exact ⟨List.takeWhile_cons_of_neg (by simp [hc]), List.dropWhile_cons_of_neg (by simp [hc])⟩
  rw [readDigits?, List.takeWhile_append_of_pos hdigits, List.dropWhile_append_of_pos hdigits,
    hend.1, hend.2, List.append_nil]
  simp [hne]

/-- The digits behind a point are read, and none where there is no point. -/
private theorem readFraction?_append {fraction rest : List Char}
    (hdigits : ∀ c ∈ fraction, c.isDigit = true)
    (hrest : ∀ c, rest.head? = some c → c.isDigit = false ∧ c ≠ '.') :
    readFraction? ((if fraction.isEmpty then [] else '.' :: fraction) ++ rest) =
      some (fraction, rest) := by
  cases fraction with
  | nil =>
    simp only [List.isEmpty_nil, if_true, List.nil_append]
    rw [readFraction?.eq_2]
    rintro tail rfl
    exact (hrest '.' rfl).2 rfl
  | cons d digits =>
    rw [List.isEmpty_cons, if_neg Bool.false_ne_true, List.cons_append, readFraction?]
    exact readDigits?_append (List.cons_ne_nil d digits) hdigits fun c hc => (hrest c hc).1

/-- Digits start with no sign. -/
private theorem readSign_append {digits rest : List Char} (hne : digits ≠ [])
    (hdigits : ∀ c ∈ digits, c.isDigit = true) :
    readSign (digits ++ rest) = (false, digits ++ rest) := by
  obtain ⟨d, tail, rfl⟩ := List.exists_cons_of_ne_nil hne
  have hd := hdigits d List.mem_cons_self
  rw [List.cons_append, readSign]
  · intro _ heq
    obtain ⟨rfl, -⟩ := List.cons.inj heq
    exact absurd hd (by decide)
  · intro _ heq
    obtain ⟨rfl, -⟩ := List.cons.inj heq
    exact absurd hd (by decide)

/-- The exponent of a number. -/
private def writtenExponent : Option (Bool × List Char) → List Char
  | none => []
  | some (negative, digits) => 'e' :: (if negative then '-' :: digits else digits)

/-- A written exponent is read, and none where there is none. -/
private theorem readExponent?_append {exponent : Option (Bool × List Char)} {rest : List Char}
    (hexponent : ∀ negative digits, exponent = some (negative, digits) →
      digits ≠ [] ∧ ∀ c ∈ digits, c.isDigit = true)
    (hrest : EndsNumber rest) :
    readExponent? (writtenExponent exponent ++ rest) = some (exponent, rest) := by
  cases exponent with
  | none =>
    cases rest with
    | nil => rfl
    | cons c tail =>
      obtain ⟨-, -, he, hE⟩ := hrest c rfl
      rw [writtenExponent, List.nil_append, readExponent?, if_neg (not_or.mpr ⟨he, hE⟩)]
  | some written =>
    obtain ⟨negative, digits⟩ := written
    obtain ⟨hne, hdigits⟩ := hexponent negative digits rfl
    have hread := readDigits?_append hne hdigits fun c hc => (hrest c hc).1
    rw [writtenExponent, List.cons_append, readExponent?, if_pos (.inl rfl)]
    cases negative with
    | false =>
      simp only [Bool.false_eq_true, if_false, readSign_append hne hdigits, hread,
        Option.bind_eq_bind, Option.bind_some]
    | true =>
      simp only [if_true, List.cons_append, readSign, hread, Option.bind_eq_bind,
        Option.bind_some]

/-- The whole part of a number is read up to a character that is no digit. -/
private theorem readWhole?_append {whole rest : List Char}
    (hwhole : whole = ['0'] ∨ whole ≠ [] ∧ whole.head? ≠ some '0')
    (hdigits : ∀ c ∈ whole, c.isDigit = true)
    (hrest : ∀ c, rest.head? = some c → c.isDigit = false) :
    readWhole? (whole ++ rest) = some (whole, rest) := by
  rcases hwhole with rfl | ⟨hne, hzero⟩
  · rfl
  · obtain ⟨d, tail, rfl⟩ := List.exists_cons_of_ne_nil hne
    rw [List.cons_append, readWhole?]
    · exact readDigits?_append (List.cons_ne_nil d tail) hdigits hrest
    · intro _ heq
      obtain ⟨rfl, -⟩ := List.cons.inj heq
      exact hzero rfl

/-- What a number is written as behind its sign. -/
private theorem writeNumber_eq (n : JsonNumber) :
    writeNumber n = (if n.negative then ['-'] else []) ++
      (n.whole ++ ((if n.fraction.isEmpty then [] else '.' :: n.fraction) ++
        writtenExponent n.exponent)) := by
  rw [writeNumber, List.append_assoc, List.append_assoc]
  cases n.exponent <;> rfl

/-- A number is read back behind its sign. -/
theorem readUnsigned?_write {n : JsonNumber} (h : n.WellFormed) {rest : List Char}
    (hrest : EndsNumber rest) :
    readUnsigned? n.negative (n.whole ++ ((if n.fraction.isEmpty then [] else '.' :: n.fraction) ++
      (writtenExponent n.exponent ++ rest))) = some (n, rest) := by
  -- Neither an exponent nor a fraction goes on with what stands in front of it.
  have hexponent : ∀ c, (writtenExponent n.exponent ++ rest).head? = some c →
      c.isDigit = false ∧ c ≠ '.' := by
    intro c hc
    cases he : n.exponent with
    | none =>
      rw [he, writtenExponent, List.nil_append] at hc
      exact ⟨(hrest c hc).1, (hrest c hc).2.1⟩
    | some written =>
      rw [he, writtenExponent, List.cons_append, List.head?_cons, Option.some.injEq] at hc
      subst hc
      exact ⟨by decide, by decide⟩
  have hfraction : ∀ c, ((if n.fraction.isEmpty then [] else '.' :: n.fraction) ++
      (writtenExponent n.exponent ++ rest)).head? = some c → c.isDigit = false := by
    intro c hc
    split at hc
    · exact (hexponent c hc).1
    · rw [List.cons_append, List.head?_cons, Option.some.injEq] at hc
      subst hc
      decide
  have hdigits := List.forall_mem_append.mp h.digits
  rw [readUnsigned?, readWhole?_append h.whole hdigits.1 hfraction]
  simp only [Option.bind_eq_bind, Option.bind_some, readFraction?_append hdigits.2 hexponent,
    readExponent?_append h.exponent hrest]

/-- A number is read by its grammar. -/
private theorem readNumber_eq {negative : Bool} {s rest : List Char} {n : JsonNumber}
    (h : readUnsigned? negative s = some (n, rest)) :
    readNumber negative s = some ⟨(n, rest), length_lt_of_readUnsigned? h⟩ := by
  rw [readNumber]
  split
  · next hnone =>
    rw [h] at hnone
    cases hnone
  · next n' rest' hsome =>
    rw [h, Option.some.injEq, Prod.mk.injEq] at hsome
    obtain ⟨rfl, rfl⟩ := hsome
    rfl

private theorem ne_of_isDigit {c d : Char} (hc : c.isDigit = true) (hd : d.isDigit = false) :
    c ≠ d := by
  rintro rfl
  rw [hc] at hd
  cases hd

/-- What starts with a digit is read as a number. -/
private theorem readValue_of_isDigit {c : Char} {s rest : List Char} {n : JsonNumber}
    (hc : c.isDigit = true) (h : readUnsigned? false (c :: s) = some (n, rest)) :
    readValue (c :: s) = some ⟨(number n, rest), length_lt_of_readUnsigned? h⟩ := by
  rw [readValue, readNumber_eq h]
  · exact ne_of_isDigit hc rfl
  · exact ne_of_isDigit hc rfl
  · exact ne_of_isDigit hc rfl
  · exact fun _ hn _ => ne_of_isDigit hc rfl hn
  · exact fun _ ht _ => ne_of_isDigit hc rfl ht
  · exact fun _ hf _ => ne_of_isDigit hc rfl hf
  · exact ne_of_isDigit hc rfl

/-- A number is read back where a value is looked for. -/
private theorem readValue_writeNumber {n : JsonNumber} (h : n.WellFormed) {rest : List Char}
    (hrest : EndsNumber rest) :
    ∃ hlt, readValue (writeNumber n ++ rest) = some ⟨(number n, rest), hlt⟩ := by
  have hread := readUnsigned?_write h hrest
  rw [writeNumber_eq, List.append_assoc, List.append_assoc, List.append_assoc]
  cases hsign : n.negative with
  | true =>
    rw [hsign] at hread
    rw [if_pos rfl, List.singleton_append, readValue, readNumber_eq hread]
    exact ⟨_, rfl⟩
  | false =>
    rw [hsign] at hread
    obtain ⟨c, tail, hwhole, hc⟩ := h.exists_cons
    rw [hwhole, List.cons_append] at hread
    rw [if_neg Bool.false_ne_true, List.nil_append, hwhole, List.cons_append,
      readValue_of_isDigit hc hread]
    exact ⟨_, rfl⟩

/-! ## Blanks -/

private theorem isBlank_of_isDigit {c : Char} (hc : c.isDigit = true) : isBlank c = false := by
  simp only [isBlank, Bool.or_eq_false_iff, beq_eq_false_iff_ne]
  exact ⟨⟨⟨ne_of_isDigit hc rfl, ne_of_isDigit hc rfl⟩, ne_of_isDigit hc rfl⟩,
    ne_of_isDigit hc rfl⟩

/-- Blanks are skipped up to a character that is none. -/
theorem skipBlanks_newLine (level : Nat) {c : Char} (hc : isBlank c = false) (rest : List Char) :
    skipBlanks (newLine level ++ c :: rest) = c :: rest := by
  have hline : ∀ d ∈ newLine level, isBlank d = true := by
    intro d hd
    rcases List.mem_cons.mp hd with rfl | hd
    · rfl
    · obtain ⟨-, rfl⟩ := List.mem_replicate.mp hd
      rfl
  rw [skipBlanks, List.dropWhile_append_of_pos hline, List.dropWhile_cons_of_neg (by simp [hc])]

theorem skipBlanks_cons {c : Char} (hc : isBlank c = false) (rest : List Char) :
    skipBlanks (c :: rest) = c :: rest :=
  List.dropWhile_cons_of_neg (by simp [hc])

/-- The character that is looked for stands behind the blanks. -/
theorem expect?_eq_some {c : Char} {s rest : List Char} (h : skipBlanks s = c :: rest) :
    ∃ hlt, expect? c s = some ⟨rest, hlt⟩ := by
  have hlt : rest.length < s.length := by
    have := length_skipBlanks_le s
    rw [h, List.length_cons] at this
    omega
  refine ⟨hlt, ?_⟩
  rw [expect?]
  split
  · next hnil =>
    rw [h] at hnil
    cases hnil
  · next d tail hcons =>
    rw [h, List.cons.injEq] at hcons
    obtain ⟨rfl, rfl⟩ := hcons
    exact if_pos rfl

/-- Another character stands behind the blanks. -/
theorem expect?_eq_none {c d : Char} {s rest : List Char} (h : skipBlanks s = d :: rest)
    (hne : d ≠ c) : expect? c s = none := by
  rw [expect?]
  split
  · rfl
  · next e tail hcons =>
    rw [h, List.cons.injEq] at hcons
    obtain ⟨rfl, rfl⟩ := hcons
    exact if_neg hne

/-! ## Values -/

/-- A value starts with a character that is neither a blank nor the end of an array. -/
private theorem exists_write_eq_cons (level : Nat) {v : Json} (h : v.WellFormed) :
    ∃ c tail, write level v = c :: tail ∧ isBlank c = false ∧ c ≠ ']' := by
  cases v with
  | null => exact ⟨_, _, write.eq_1 level, by decide, by decide⟩
  | bool b => cases b <;> exact ⟨_, _, rfl, by decide, by decide⟩
  | number n =>
    rw [write, writeNumber_eq]
    cases n.negative with
    | true => exact ⟨_, _, rfl, by decide, by decide⟩
    | false =>
      obtain ⟨c, tail, hwhole, hc⟩ := JsonNumber.WellFormed.exists_cons h
      rw [if_neg Bool.false_ne_true, List.nil_append, hwhole]
      exact ⟨c, _, rfl, isBlank_of_isDigit hc, ne_of_isDigit hc rfl⟩
  | string text => exact ⟨_, _, write.eq_5 level text, by decide, by decide⟩
  | array elements => cases elements <;> exact ⟨_, _, rfl, by decide, by decide⟩
  | object members => cases members <;> exact ⟨_, _, rfl, by decide, by decide⟩

/-- Neither the other elements of an array nor its end go on with a number. -/
private theorem endsNumber_writeElements (level : Nat) (elements : List Json) (rest : List Char) :
    EndsNumber (writeElements level elements ++ rest) := by
  intro c hc
  cases elements <;> cases hc <;> decide

/-- Neither the other members of an object nor its end go on with a number. -/
private theorem endsNumber_writeMembers (level : Nat) (members : List (Option String × Json))
    (rest : List Char) : EndsNumber (writeMembers level members ++ rest) := by
  intro c hc
  cases members <;> cases hc <;> decide

/-- A value is read back from what is written of it, at any level and whatever stands behind it. -/
def ReadsBack (v : Json) : Prop :=
  ∀ (level : Nat) (rest : List Char), EndsNumber rest →
    ∃ hlt, readValue (write level v ++ rest) = some ⟨(v, rest), hlt⟩

/-- A value is read back behind the blanks of a new line. -/
private theorem ReadsBack.newLine {v : Json} (hread : v.ReadsBack) (h : v.WellFormed)
    (level level' : Nat) {rest : List Char} (hrest : EndsNumber rest) :
    ∃ hlt, readValue (skipBlanks (newLine level ++ (write level' v ++ rest))) =
      some ⟨(v, rest), hlt⟩ := by
  obtain ⟨c, tail, hwrite, hblank, -⟩ := exists_write_eq_cons level' h
  have hskip : skipBlanks (Json.newLine level ++ (write level' v ++ rest)) =
      write level' v ++ rest := by
    rw [hwrite, List.cons_append, skipBlanks_newLine level hblank]
  rw [hskip]
  exact hread level' rest hrest

/-- The elements of an array are read back behind its start. -/
theorem readElements_write (level : Nat) {v : Json} {elements : List Json}
    (h : ∀ w ∈ v :: elements, w.WellFormed ∧ w.ReadsBack) (rest : List Char) :
    ∃ hlt, readElements (newLine (level + 1) ++ (write (level + 1) v ++
        (writeElements level elements ++ rest))) = some ⟨(v :: elements, rest), hlt⟩ := by
  induction elements generalizing v with
  | nil =>
    obtain ⟨hv, hread⟩ := h v List.mem_cons_self
    obtain ⟨_, hfirst⟩ :=
      hread.newLine hv (level + 1) (level + 1) (endsNumber_writeElements level [] rest)
    have hskip : skipBlanks (writeElements level [] ++ rest) = ']' :: rest := by
      rw [writeElements, List.append_assoc, List.singleton_append, skipBlanks_newLine level rfl]
    obtain ⟨_, hend⟩ := expect?_eq_some hskip
    have hlast : expect? ',' (writeElements level [] ++ rest) = none :=
      expect?_eq_none hskip (by decide)
    rw [readElements, hfirst]
    dsimp only
    rw [hlast, hend]
    exact ⟨_, rfl⟩
  | cons w elements ih =>
    obtain ⟨hv, hread⟩ := h v List.mem_cons_self
    obtain ⟨_, hfirst⟩ :=
      hread.newLine hv (level + 1) (level + 1) (endsNumber_writeElements level (w :: elements) rest)
    obtain ⟨_, hothers⟩ := ih fun x hx => h x (List.mem_cons_of_mem v hx)
    have hskip : skipBlanks (writeElements level (w :: elements) ++ rest) =
        ',' :: (newLine (level + 1) ++ (write (level + 1) w ++
          (writeElements level elements ++ rest))) := by
      rw [writeElements, List.cons_append, List.append_assoc, List.append_assoc]
      exact skipBlanks_cons rfl _
    obtain ⟨_, hcomma⟩ := expect?_eq_some hskip
    rw [readElements, hfirst]
    dsimp only
    rw [hcomma]
    dsimp only
    rw [hothers]
    exact ⟨_, rfl⟩

/-- A member is read back in four steps: its opening quote, its key, the colon and its value. -/
private theorem ReadsBack.member {v : Json} (hread : v.ReadsBack) (h : v.WellFormed)
    (level : Nat) (name : String) {rest : List Char} (hrest : EndsNumber rest) :
    ∃ (s₁ s₂ s₃ : List Char) (h₁ : _) (h₂ : _) (h₃ : _) (h₄ : _),
      expect? '"' (Json.newLine level ++ (writeString (some name) ++
        (':' :: ' ' :: (write level v ++ rest)))) = some ⟨s₁, h₁⟩ ∧
      readString s₁ = some ⟨(some name, s₂), h₂⟩ ∧ expect? ':' s₂ = some ⟨s₃, h₃⟩ ∧
      readValue (skipBlanks s₃) = some ⟨(v, rest), h₄⟩ := by
  obtain ⟨c, tail, hwrite, hblank, -⟩ := exists_write_eq_cons level h
  obtain ⟨h₁, hquote⟩ := expect?_eq_some
    (skipBlanks_newLine level (c := '"') rfl (name.toList.flatMap escapeChar ++
      '"' :: ':' :: ' ' :: (write level v ++ rest)))
  obtain ⟨h₂, hname⟩ := readString_write name (':' :: ' ' :: (write level v ++ rest))
  obtain ⟨h₃, hcolon⟩ := expect?_eq_some
    (skipBlanks_cons (c := ':') rfl (' ' :: (write level v ++ rest)))
  have hskip : skipBlanks (' ' :: (write level v ++ rest)) = write level v ++ rest := by
    rw [skipBlanks, List.dropWhile_cons_of_pos rfl, ← skipBlanks, hwrite, List.cons_append,
      skipBlanks_cons hblank]
  obtain ⟨h₄, hvalue⟩ : ∃ h₄, readValue (skipBlanks (' ' :: (write level v ++ rest))) =
      some ⟨(v, rest), h₄⟩ := by
    rw [hskip]
    exact hread level rest hrest
  rw [writeString, List.cons_append, List.append_assoc, List.singleton_append]
  exact ⟨_, _, _, h₁, h₂, h₃, h₄, hquote, hname, hcolon, hvalue⟩

/-- The members of an object are read back behind its start. -/
theorem readMembers_write (level : Nat) {key : Option String} {v : Json}
    {members : List (Option String × Json)}
    (h : ∀ m ∈ (key, v) :: members, m.1.isSome ∧ m.2.WellFormed ∧ m.2.ReadsBack)
    (rest : List Char) :
    ∃ hlt, readMembers (newLine (level + 1) ++ (writeString key ++
        (':' :: ' ' :: (write (level + 1) v ++ (writeMembers level members ++ rest))))) =
      some ⟨((key, v) :: members, rest), hlt⟩ := by
  induction members generalizing key v with
  | nil =>
    obtain ⟨hkey, hv, hread⟩ : key.isSome ∧ v.WellFormed ∧ v.ReadsBack := h _ List.mem_cons_self
    obtain ⟨name, rfl⟩ := Option.isSome_iff_exists.mp hkey
    obtain ⟨s₁, s₂, s₃, _, _, _, _, hquote, hname, hcolon, hvalue⟩ :=
      hread.member hv (level + 1) name (endsNumber_writeMembers level [] rest)
    have hskip : skipBlanks (writeMembers level [] ++ rest) = '\x7d' :: rest := by
      rw [writeMembers, List.append_assoc, List.singleton_append, skipBlanks_newLine level rfl]
    have hlast : expect? ',' (writeMembers level [] ++ rest) = none :=
      expect?_eq_none hskip (by decide)
    obtain ⟨_, hend⟩ := expect?_eq_some hskip
    rw [readMembers, hquote]
    dsimp only
    rw [hname]
    dsimp only
    rw [hcolon]
    dsimp only
    rw [hvalue]
    dsimp only
    rw [hlast, hend]
    exact ⟨_, rfl⟩
  | cons m members ih =>
    obtain ⟨hkey, hv, hread⟩ : key.isSome ∧ v.WellFormed ∧ v.ReadsBack := h _ List.mem_cons_self
    obtain ⟨name, rfl⟩ := Option.isSome_iff_exists.mp hkey
    obtain ⟨s₁, s₂, s₃, _, _, _, _, hquote, hname, hcolon, hvalue⟩ :=
      hread.member hv (level + 1) name (endsNumber_writeMembers level (m :: members) rest)
    obtain ⟨_, hothers⟩ := ih fun x hx => h x (List.mem_cons_of_mem _ hx)
    have hskip : skipBlanks (writeMembers level (m :: members) ++ rest) =
        ',' :: (newLine (level + 1) ++ (writeString m.1 ++
          (':' :: ' ' :: (write (level + 1) m.2 ++ (writeMembers level members ++ rest))))) := by
      rw [writeMembers, List.cons_append, List.append_assoc, List.append_assoc, List.cons_append,
        List.cons_append, List.append_assoc]
      exact skipBlanks_cons rfl _
    obtain ⟨_, hcomma⟩ := expect?_eq_some hskip
    rw [readMembers, hquote]
    dsimp only
    rw [hname]
    dsimp only
    rw [hcolon]
    dsimp only
    rw [hvalue]
    dsimp only
    rw [hcomma]
    dsimp only
    rw [hothers]
    exact ⟨_, rfl⟩

private theorem sizeOf_lt_of_mem_members {members : List (Option String × Json)}
    {m : Option String × Json} (h : m ∈ members) : sizeOf m.2 < sizeOf (object members) := by
  have hmember := List.sizeOf_lt_of_mem h
  have hvalue : sizeOf m = 1 + sizeOf m.1 + sizeOf m.2 := rfl
  rw [object.sizeOf_spec]
  omega

private theorem sizeOf_lt_of_mem_elements {elements : List Json} {v : Json} (h : v ∈ elements) :
    sizeOf v < sizeOf (array elements) := by
  have helement := List.sizeOf_lt_of_mem h
  rw [array.sizeOf_spec]
  omega

/-- A well-formed value is read back from what is written of it. -/
theorem WellFormed.readsBack {v : Json} (h : v.WellFormed) : v.ReadsBack := by
  intro level rest hrest
  match v, h with
  | null, _ => exact ⟨_, readValue.eq_5 rest⟩
  | bool true, _ => exact ⟨_, readValue.eq_6 rest⟩
  | bool false, _ => exact ⟨_, readValue.eq_7 rest⟩
  | number n, h =>
    rw [write]
    exact readValue_writeNumber h hrest
  | string text, h =>
    obtain ⟨text, rfl⟩ := Option.isSome_iff_exists.mp h
    obtain ⟨_, hread⟩ := readString_write text rest
    rw [write, writeString, List.cons_append, List.append_assoc, List.singleton_append,
      Option.getD_some, readValue, hread]
    exact ⟨_, rfl⟩
  | array [], _ =>
    obtain ⟨_, hend⟩ := expect?_eq_some (skipBlanks_cons (c := ']') rfl rest)
    rw [write, List.cons_append, List.singleton_append, readValue, hend]
    exact ⟨_, rfl⟩
  | array (w :: elements), h =>
    have hwell := elementsWellFormed_iff.mp h
    obtain ⟨_, hread⟩ := readElements_write level
      (fun x hx => ⟨hwell x hx, (hwell x hx).readsBack⟩) rest
    -- The first element keeps the array from ending at once.
    obtain ⟨c, tail, hwrite, hblank, hne⟩ := exists_write_eq_cons (level + 1) h.1
    have hopen : expect? ']' (newLine (level + 1) ++ (write (level + 1) w ++
        (writeElements level elements ++ rest))) = none := by
      rw [hwrite, List.cons_append]
      exact expect?_eq_none (skipBlanks_newLine _ hblank _) hne
    rw [write, List.cons_append, List.append_assoc, List.append_assoc, readValue, hopen, hread]
    exact ⟨_, rfl⟩
  | object [], _ =>
    obtain ⟨_, hend⟩ := expect?_eq_some (skipBlanks_cons (c := '\x7d') rfl rest)
    rw [write, List.cons_append, List.singleton_append, readValue, hend]
    exact ⟨_, rfl⟩
  | object ((key, w) :: members), h =>
    have hwell := membersWellFormed_iff.mp h
    obtain ⟨_, hread⟩ := readMembers_write level
      (fun m hm => ⟨(hwell m hm).1, (hwell m hm).2, (hwell m hm).2.readsBack⟩) rest
    have hopen : expect? '\x7d' (newLine (level + 1) ++ (writeString key ++
        (':' :: ' ' :: (write (level + 1) w ++ (writeMembers level members ++ rest))))) = none :=
      expect?_eq_none (skipBlanks_newLine _ (c := '"') rfl _) (by decide)
    rw [write, List.cons_append, List.append_assoc, List.append_assoc, List.cons_append,
      List.cons_append, List.append_assoc, readValue, hopen, hread]
    exact ⟨_, rfl⟩
termination_by sizeOf v
decreasing_by
  · exact sizeOf_lt_of_mem_elements hx
  · exact sizeOf_lt_of_mem_members hm

/-- A document is read back. -/
theorem ofDocument?_toDocument {v : Json} (h : v.WellFormed) : ofDocument? v.toDocument = some v := by
  obtain ⟨c, tail, hwrite, hblank, -⟩ := exists_write_eq_cons 0 h
  have hskip : skipBlanks v.toDocument.toList = write 0 v ++ ['\n'] := by
    rw [toDocument, String.toList_ofList, hwrite, List.cons_append, skipBlanks_cons hblank]
  have hend : EndsNumber ['\n'] := by
    intro d hd
    cases hd
    decide
  obtain ⟨_, hread⟩ : ∃ hlt, readValue (skipBlanks v.toDocument.toList) =
      some ⟨(v, ['\n']), hlt⟩ := by
    rw [hskip]
    exact h.readsBack 0 ['\n'] hend
  rw [ofDocument?, hread]
  rfl

end Json

end SchemaLang
