import Mathlib.Data.List.TakeWhile
import SchemaLang.Output.Application
import SchemaLang.Proofs.Pairing.Compiled
import SchemaLang.Proofs.Schema.Identifier
import SchemaLang.Review.Report

/-!
# Defaults of columns

A default value becomes an expression of a generated module. What stands for a number in a source is
pasted as it stands, and so has to be a number of generated modules as well. Two kinds of such texts
are none there: the names of the numbers that have no digits, and whole numbers other than zero with
a zero in front.

## Key results

- `isNumber_of_isDecimalFloat`: which texts in digits are numbers of generated modules
- `isExpression_ofDefault_iff`: which defaults become expressions
- `not_isExpression_portsByRank`: there are defaults that become none
-/

namespace SchemaLang

/-! ## Numbers of generated modules -/

namespace Numeral

/-- A run of digits. A single underscore may stand between two of them. -/
inductive IsRun (isDigit : Char → Bool) : List Char → Prop
  | last {c : Char} : isDigit c = true → IsRun isDigit [c]
  | cons {c : Char} {s : List Char} : isDigit c = true → IsRun isDigit s → IsRun isDigit (c :: s)
  | apart {c : Char} {s : List Char} :
      isDigit c = true → IsRun isDigit s → IsRun isDigit (c :: '_' :: s)

/-- The digits that follow a zero with this letter. -/
def baseDigit? (letter : Char) : Option (Char → Bool) :=
  match letter with
  | 'b' | 'B' => some fun c => '0' ≤ c && c ≤ '1'
  | 'o' | 'O' => some fun c => '0' ≤ c && c ≤ '7'
  | 'x' | 'X' => some fun c => c.isDigit || ('a' ≤ c && c ≤ 'f') || ('A' ≤ c && c ≤ 'F')
  | _ => none

/-- A whole number: zeros, or a decimal number without zeros in front, or one to another base. -/
inductive IsInteger : List Char → Prop
  | zero {s : List Char} : IsRun (· == '0') s → IsInteger s
  | decimal {c : Char} {s : List Char} : c ≠ '0' → IsRun Char.isDigit (c :: s) → IsInteger (c :: s)
  | based {letter : Char} {isDigit : Char → Bool} {s : List Char} :
      baseDigit? letter = some isDigit →
      IsRun isDigit s ∨ (∃ digits, s = '_' :: digits ∧ IsRun isDigit digits) →
      IsInteger ('0' :: letter :: s)

/-- A number with a point. -/
inductive IsPointed : List Char → Prop
  | fraction {whole s : List Char} : whole = [] ∨ IsRun Char.isDigit whole → IsRun Char.isDigit s →
      IsPointed (whole ++ '.' :: s)
  | whole {whole : List Char} : IsRun Char.isDigit whole → IsPointed (whole ++ ['.'])

/-- A number with a point or an exponent. -/
inductive IsFloat : List Char → Prop
  | pointed {s : List Char} : IsPointed s → IsFloat s
  | scaled {s exponent : List Char} {letter : Char} : IsRun Char.isDigit s ∨ IsPointed s →
      letter = 'e' ∨ letter = 'E' → IsRun Char.isDigit (Text.dropSign exponent) →
      IsFloat (s ++ letter :: exponent)

/-- A number without a sign. -/
inductive IsNumber : List Char → Prop
  | integer {s : List Char} : IsInteger s → IsNumber s
  | float {s : List Char} : IsFloat s → IsNumber s
  | imaginary {s : List Char} {letter : Char} : IsRun Char.isDigit s ∨ IsFloat s →
      letter = 'j' ∨ letter = 'J' → IsNumber (s ++ [letter])

/-- A whole number other than zero in decimal digits, with a zero in front. -/
def IsPadded (s : List Char) : Prop :=
  (∀ c ∈ s, c.isDigit = true) ∧ s.head? = some '0' ∧ ∃ c ∈ s, c ≠ '0'

instance (s : List Char) : Decidable (IsPadded s) :=
  decidable_of_iff
    (s.all Char.isDigit = true ∧ s.head? = some '0' ∧ s.any (· != '0') = true)
    (by simp [IsPadded])

theorem isRun_of_forall {isDigit : Char → Bool} {s : List Char} (hne : s ≠ [])
    (hall : ∀ c ∈ s, isDigit c = true) : IsRun isDigit s := by
  induction s with
  | nil => exact absurd rfl hne
  | cons c s ih =>
    have hc : isDigit c = true := hall c List.mem_cons_self
    cases s with
    | nil => exact .last hc
    | cons d s => exact .cons hc (ih (List.cons_ne_nil d s) fun c hc => hall c (.tail _ hc))

theorem isRun_takeWhile {isDigit : Char → Bool} {s : List Char}
    (hne : s.takeWhile isDigit ≠ []) : IsRun isDigit (s.takeWhile isDigit) :=
  isRun_of_forall hne fun _ hc => List.mem_takeWhile_imp hc

/-- A run starts with a digit. -/
theorem IsRun.exists_cons {isDigit : Char → Bool} {s : List Char} (h : IsRun isDigit s) :
    ∃ c rest, s = c :: rest ∧ isDigit c = true := by
  cases h with
  | last hc => exact ⟨_, _, rfl, hc⟩
  | cons hc => exact ⟨_, _, rfl, hc⟩
  | apart hc => exact ⟨_, _, rfl, hc⟩

/-- A run is made of digits and underscores. -/
theorem IsRun.of_mem {isDigit : Char → Bool} {s : List Char} (h : IsRun isDigit s) {c : Char}
    (hc : c ∈ s) : isDigit c = true ∨ c = '_' := by
  induction h with
  | last hd =>
    obtain rfl := List.mem_singleton.mp hc
    exact .inl hd
  | cons hd _ ih =>
    rcases List.mem_cons.mp hc with rfl | hc
    · exact .inl hd
    · exact ih hc
  | apart hd _ ih =>
    rcases List.mem_cons.mp hc with rfl | hc
    · exact .inl hd
    · rcases List.mem_cons.mp hc with rfl | hc
      · exact .inr rfl
      · exact ih hc

/-! ### Digits -/

/-- Decimal digits are a whole number, unless a zero pads them. -/
theorem isInteger_of_digits {s : List Char} (hne : s ≠ []) (hall : ∀ c ∈ s, c.isDigit = true)
    (hpadded : ¬ IsPadded s) : IsInteger s := by
  obtain ⟨c, rest, rfl⟩ := List.exists_cons_of_ne_nil hne
  by_cases hc : c = '0'
  · subst hc
    refine .zero (isRun_of_forall hne fun d hd => beq_iff_eq.mpr ?_)
    by_contra hother
    exact hpadded ⟨hall, rfl, d, hd, hother⟩
  · exact .decimal hc (isRun_of_forall hne hall)

/-- What may follow the digits of a number is an exponent with a letter of its own. -/
theorem exists_of_isExponent {s : List Char} (h : Text.isExponent s = true) (hne : s ≠ []) :
    ∃ letter exponent, s = letter :: exponent ∧ (letter = 'e' ∨ letter = 'E') ∧
      IsRun Char.isDigit (Text.dropSign exponent) := by
  obtain ⟨letter, exponent, rfl⟩ := List.exists_cons_of_ne_nil hne
  simp only [Text.isExponent, Bool.and_eq_true, Bool.or_eq_true, beq_iff_eq, Bool.not_eq_true',
    List.isEmpty_eq_false_iff, List.all_eq_true] at h
  obtain ⟨⟨hletter, hdigits⟩, hall⟩ := h
  exact ⟨letter, exponent, rfl, hletter, isRun_of_forall hdigits hall⟩

/-- A number that ends behind its digits and point, or goes on with an exponent. -/
theorem isFloat_append_of_isExponent {s rest : List Char} (hs : IsPointed s)
    (hrest : Text.isExponent rest = true) : IsFloat (s ++ rest) := by
  by_cases hne : rest = []
  · rw [hne, List.append_nil]
    exact .pointed hs
  · obtain ⟨letter, exponent, rfl, hletter, hexponent⟩ := exists_of_isExponent hrest hne
    exact .scaled (.inr hs) hletter hexponent

/-- A point with digits on at least one side. -/
theorem isPointed_takeWhile {s rest : List Char}
    (hdigits : ¬ (s.takeWhile Char.isDigit = [] ∧ rest.takeWhile Char.isDigit = [])) :
    IsPointed (s.takeWhile Char.isDigit ++ '.' :: rest.takeWhile Char.isDigit) := by
  by_cases hnil : rest.takeWhile Char.isDigit = []
  · rw [hnil]
    exact .whole (isRun_takeWhile fun hwhole => hdigits ⟨hwhole, hnil⟩)
  · refine .fraction ?_ (isRun_takeWhile hnil)
    by_cases hwhole : s.takeWhile Char.isDigit = []
    · exact .inl hwhole
    · exact .inr (isRun_takeWhile hwhole)

/-- What is a number to the source is one to generated modules, unless a zero pads it. -/
theorem isNumber_of_isDecimalFloat {s : List Char} (h : Text.isDecimalFloat s = true)
    (hpadded : ¬ IsPadded s) : IsNumber s := by
  have hsplit := List.takeWhile_append_dropWhile (p := Char.isDigit) (l := s)
  rw [Text.isDecimalFloat] at h
  -- The digits in front are followed by a point, or by an exponent, or by nothing.
  split at h
  · next rest hrest =>
    have hfraction := List.takeWhile_append_dropWhile (p := Char.isDigit) (l := rest)
    simp only [Bool.and_eq_true, Bool.not_eq_true', Bool.and_eq_false_iff, ← not_and_or,
      List.isEmpty_eq_false_iff, ne_eq] at h
    obtain ⟨hdigits, hexponent⟩ := h
    have hfloat := isFloat_append_of_isExponent (isPointed_takeWhile hdigits) hexponent
    rw [List.append_assoc, List.cons_append, hfraction, ← hrest, hsplit] at hfloat
    exact .float hfloat
  · rw [Bool.and_eq_true, Bool.not_eq_true', List.isEmpty_eq_false_iff] at h
    obtain ⟨hwhole, hexponent⟩ := h
    by_cases hne : s.dropWhile Char.isDigit = []
    · -- Only here can a zero pad the number.
      rw [hne, List.append_nil] at hsplit
      rw [hsplit] at hwhole
      refine .integer (isInteger_of_digits hwhole ?_ hpadded)
      rw [← hsplit]
      exact fun _ hc => List.mem_takeWhile_imp hc
    · obtain ⟨letter, exponent, hrest, hletter, hrun⟩ := exists_of_isExponent hexponent hne
      rw [← hsplit, hrest]
      exact .float (.scaled (.inl (isRun_takeWhile hwhole)) hletter hrun)

/-! ### Texts that are no numbers -/

/-- The text starts like a number. -/
def StartsNumber (s : List Char) : Prop :=
  ∃ c rest, s = c :: rest ∧ (c.isDigit = true ∨ c = '.')

theorem StartsNumber.append {s : List Char} (h : StartsNumber s) (rest : List Char) :
    StartsNumber (s ++ rest) := by
  obtain ⟨c, front, rfl, hc⟩ := h
  exact ⟨c, front ++ rest, rfl, hc⟩

theorem IsRun.startsNumber {s : List Char} (h : IsRun Char.isDigit s) : StartsNumber s := by
  obtain ⟨c, rest, rfl, hc⟩ := h.exists_cons
  exact ⟨c, rest, rfl, .inl hc⟩

theorem IsInteger.startsNumber {s : List Char} (h : IsInteger s) : StartsNumber s := by
  cases h with
  | zero h =>
    obtain ⟨c, rest, rfl, hc⟩ := h.exists_cons
    obtain rfl : c = '0' := beq_iff_eq.mp hc
    exact ⟨'0', rest, rfl, .inl (by decide)⟩
  | decimal _ h => exact h.startsNumber
  | based => exact ⟨'0', _, rfl, .inl (by decide)⟩

theorem IsPointed.startsNumber {s : List Char} (h : IsPointed s) : StartsNumber s := by
  cases h with
  | fraction hwhole _ =>
    rcases hwhole with rfl | hwhole
    · exact ⟨'.', _, rfl, .inr rfl⟩
    · exact hwhole.startsNumber.append _
  | whole hwhole => exact hwhole.startsNumber.append _

theorem IsFloat.startsNumber {s : List Char} (h : IsFloat s) : StartsNumber s := by
  cases h with
  | pointed h => exact h.startsNumber
  | scaled hs _ _ => exact (hs.elim (·.startsNumber) (·.startsNumber)).append _

/-- A number starts with a digit or a point. -/
theorem IsNumber.startsNumber {s : List Char} (h : IsNumber s) : StartsNumber s := by
  cases h with
  | integer h => exact h.startsNumber
  | float h => exact h.startsNumber
  | imaginary hs _ => exact (hs.elim (·.startsNumber) (·.startsNumber)).append _

/-- What a number starts with is no capital letter. -/
theorem toLower_eq_self {c : Char} (h : c.isDigit = true ∨ c = '.') : c.toLower = c := by
  rcases h with h | rfl
  · exact toLower_of_isDigit h
  · decide

/-- The names of numbers start with letters. -/
theorem StartsNumber.isNamedFloat_eq_false {s : List Char} (h : StartsNumber s) :
    Text.isNamedFloat s = false := by
  obtain ⟨c, rest, rfl, hc⟩ := h
  have hne (letter : Char) (hletter : letter.isDigit = false ∧ letter ≠ '.') : c ≠ letter := by
    rintro rfl
    simp [hletter] at hc
  simp [Text.isNamedFloat, toLower_eq_self hc, hne]

theorem IsPointed.mem_point {s : List Char} (h : IsPointed s) : '.' ∈ s := by
  cases h <;> simp

theorem IsFloat.exists_mem {s : List Char} (h : IsFloat s) : ∃ c ∈ s, c.isDigit = false := by
  cases h with
  | pointed h => exact ⟨'.', h.mem_point, by decide⟩
  | scaled _ hletter _ =>
    refine ⟨_, List.mem_append_right _ List.mem_cons_self, ?_⟩
    rcases hletter with rfl | rfl <;> decide

theorem isDigit_eq_false_of_baseDigit? {letter : Char} {isDigit : Char → Bool}
    (h : baseDigit? letter = some isDigit) : letter.isDigit = false := by
  unfold baseDigit? at h
  split at h <;> first | rfl | cases h

/-- No zero pads a whole number. -/
theorem IsInteger.not_isPadded {s : List Char} (h : IsInteger s) : ¬ IsPadded s := by
  rintro ⟨hall, hhead, other, hother, hne⟩
  cases h with
  | zero h =>
    rcases h.of_mem hother with hzero | rfl
    · exact hne (beq_iff_eq.mp hzero)
    · exact absurd (hall _ hother) (by decide)
  | decimal hc =>
    have hzero : _ = '0' := Option.some.inj hhead
    exact hc hzero
  | based hbase =>
    have hletter := hall _ (List.mem_cons_of_mem _ List.mem_cons_self)
    rw [isDigit_eq_false_of_baseDigit? hbase] at hletter
    cases hletter

theorem IsNumber.not_isPadded {s : List Char} (h : IsNumber s) : ¬ IsPadded s := by
  cases h with
  | integer h => exact h.not_isPadded
  | float h =>
    obtain ⟨c, hc, hdigit⟩ := h.exists_mem
    exact fun hpadded => absurd (hpadded.1 c hc) (by rw [hdigit]; decide)
  | imaginary _ hletter =>
    intro hpadded
    have hlast := hpadded.1 _ (List.mem_append_right _ List.mem_cons_self)
    rcases hletter with rfl | rfl <;> cases hlast

end Numeral

/-! ## Expressions -/

namespace Literal

/-- The constants, and the current time. -/
def constants : List String :=
  ["True", "False", "None", "db.func.now()"]

/-- The words that mean them, in lower case. -/
def constantWords : List String :=
  ["true", "false", "null", "none", "now", "now()"]

/-- A constant, the current time, a string literal, or a number with or without a sign. -/
def IsExpression (e : String) : Prop :=
  e ∈ constants ∨ (∃ s, e = quote s) ∨ Numeral.IsNumber (Text.dropSign e.toList)

/-- A number of the source that is none to generated modules. -/
def IsForeign (text : List Char) : Prop :=
  Text.isNamedFloat (Text.dropSign text) = true ∨ Numeral.IsPadded (Text.dropSign text)

instance (text : List Char) : Decidable (IsForeign text) :=
  inferInstanceAs (Decidable (_ ∨ _))

/-- What starts with neither a sign nor a zero is foreign as a name only. -/
theorem not_isForeign {c : Char} {rest : List Char} (hsign : c ≠ '+' ∧ c ≠ '-') (hzero : c ≠ '0')
    (hname : Text.isNamedFloat (c :: rest) = false) : ¬ IsForeign (c :: rest) := by
  have hdrop : Text.dropSign (c :: rest) = c :: rest := by
    unfold Text.dropSign
    split
    · next heq => exact absurd (List.cons.inj heq).1 hsign.1
    · next heq => exact absurd (List.cons.inj heq).1 hsign.2
    · rfl
  rintro (hnamed | hpadded)
  · rw [hdrop, hname] at hnamed
    cases hnamed
  · rw [hdrop] at hpadded
    exact hzero (by simpa using hpadded.2.1)

theorem not_isForeign_quoted {c : Char} (hc : c = '"' ∨ c = '\'') (rest : List Char) :
    ¬ IsForeign (c :: rest) := by
  rcases hc with rfl | rfl
  · exact not_isForeign (by decide) (by decide) rfl
  · exact not_isForeign (by decide) (by decide) rfl

/-- A constant is one of the list, and so is the word that means it. -/
private theorem mem_of_constant? {type : FieldType} {text : List Char} {constant : String}
    (h : constant? type text = some constant) :
    String.ofList (text.map Char.toLower) ∈ constantWords ∧ constant ∈ constants := by
  simp only [constant?] at h
  split_ifs at h with htrue hfalse hnone hnow
  · cases h
    exact ⟨by simp [htrue, constantWords], by decide⟩
  · cases h
    exact ⟨by simp [hfalse, constantWords], by decide⟩
  · cases h
    exact ⟨by rcases hnone with hword | hword <;> simp [hword, constantWords], by decide⟩
  · cases h
    exact ⟨by rcases hnow.1 with hword | hword <;> simp [hword, constantWords], by decide⟩

/-- No constant is written like a number. -/
theorem not_isForeign_of_constant? {type : FieldType} {text : List Char} {constant : String}
    (h : constant? type text = some constant) : ¬ IsForeign text := by
  have hword := (mem_of_constant? h).1
  -- The word is known in lower case only. It starts with a letter all the same, and as none of the
  -- words is the name of a number, neither is the text.
  cases text with
  | nil => exact absurd hword (by decide)
  | cons c rest =>
    have hhead : c.toLower ∈ ['t', 'f', 'n'] := by
      have hall : ∀ w ∈ constantWords, w.toList.head? ∈ [some 't', some 'f', some 'n'] := by
        decide
      simpa using hall _ hword
    have hname : Text.isNamedFloat (c :: rest) = false := by
      have hall : ∀ w ∈ constantWords,
          (w.toList == "inf".toList || w.toList == "infinity".toList || w.toList == "nan".toList) =
            false := by decide
      simpa [Text.isNamedFloat] using hall _ hword
    refine not_isForeign ⟨?_, ?_⟩ ?_ hname
    all_goals
      rintro rfl
      exact absurd hhead (by decide)

theorem isFloat_of_isForeign {text : List Char} (h : IsForeign text) :
    Text.isFloat text = true := by
  rw [Text.isFloat, Bool.or_eq_true]
  rcases h with h | ⟨hall, hhead, -⟩
  · exact .inr h
  · have hnil : (Text.dropSign text).dropWhile Char.isDigit = [] :=
      List.dropWhile_eq_nil_iff.mpr hall
    have hwhole : (Text.dropSign text).takeWhile Char.isDigit = Text.dropSign text :=
      List.takeWhile_eq_self_iff.mpr hall
    refine .inl ?_
    rw [Text.isDecimalFloat, hnil, hwhole]
    cases hdigits : Text.dropSign text with
    | nil => simp [hdigits] at hhead
    | cons => rfl

theorem quotedBody?_of_isForeign {text : List Char} (h : IsForeign text) :
    Text.quotedBody? text = none := by
  cases text with
  | nil => rfl
  | cons c rest =>
    have hquote (q : Char) (hq : q = '"' ∨ q = '\'') : c ≠ q := by
      rintro rfl
      exact not_isForeign_quoted hq rest h
    simp [Text.quotedBody?, Text.stripQuotes?, hquote]

/-- A foreign number is pasted all the same. -/
theorem ofDefault_of_isForeign (type : FieldType) {literal : String}
    (h : IsForeign (Text.trim literal.toList)) :
    ofDefault type literal = String.ofList (Text.trim literal.toList) := by
  have hconstant : constant? type (Text.trim literal.toList) = none :=
    Option.eq_none_iff_forall_ne_some.mpr fun _ hsome => not_isForeign_of_constant? hsome h
  simp only [ofDefault, quotedBody?_of_isForeign h, hconstant, isFloat_of_isForeign h, if_true]

/-- A foreign number is no expression. -/
theorem not_isExpression_of_isForeign {text : List Char} (h : IsForeign text) :
    ¬ IsExpression (String.ofList text) := by
  rintro (hconstant | ⟨s, hs⟩ | hnumber)
  · have hall : ∀ e ∈ constants, ¬ IsForeign e.toList := by decide
    exact hall _ hconstant (by rwa [String.toList_ofList])
  · rw [quote, quoteChars, String.ofList_inj] at hs
    rw [hs] at h
    exact not_isForeign_quoted (.inr rfl) _ h
  · rw [String.toList_ofList] at hnumber
    rcases h with hname | hpadded
    · rw [hnumber.startsNumber.isNamedFloat_eq_false] at hname
      cases hname
    · exact hnumber.not_isPadded hpadded

/-- Every other default becomes an expression. -/
theorem isExpression_ofDefault (type : FieldType) {literal : String}
    (h : ¬ IsForeign (Text.trim literal.toList)) : IsExpression (ofDefault type literal) := by
  rw [ofDefault]
  split
  · next body hbody =>
    exact .inr (.inl ⟨String.ofList body, by rw [quote, String.toList_ofList]⟩)
  · split
    · next constant hconstant =>
      exact .inl (mem_of_constant? hconstant).2
    · split_ifs with hfloat
      · refine .inr (.inr ?_)
        rw [IsForeign, not_or] at h
        rw [Text.isFloat, Bool.or_eq_true, or_iff_left h.1] at hfloat
        rw [String.toList_ofList]
        exact Numeral.isNumber_of_isDecimalFloat hfloat h.2
      · exact .inr (.inl ⟨String.ofList (Text.trim literal.toList),
          by rw [quote, String.toList_ofList]⟩)

/-- The defaults that do not become expressions are the numbers of a source that are none to
    generated modules. They are pasted as they stand. -/
theorem isExpression_ofDefault_iff (type : FieldType) (literal : String) :
    (IsExpression (ofDefault type literal) ↔ ¬ IsForeign (Text.trim literal.toList)) ∧
      (IsForeign (Text.trim literal.toList) →
        ofDefault type literal = String.ofList (Text.trim literal.toList)) := by
  refine ⟨⟨fun hexpression hforeign => ?_, isExpression_ofDefault type⟩,
    ofDefault_of_isForeign type⟩
  rw [ofDefault_of_isForeign type hforeign] at hexpression
  exact not_isExpression_of_isForeign hforeign hexpression

end Literal

/-- Ports with a label that is the name of a number, and a rank with zeros in front. -/
def portsByRank : String :=
  "table Port \x7b
id Int [pk]
label String [default: nan]
rank Int [default: 007]
\x7d"

/-- Neither the label nor the rank of a port starts with an expression. -/
theorem not_isExpression_portsByRank :
    compile portsByRank = .ok (.ofChecked portsByRank) ∧
      (Schema.ofChecked portsByRank).isValid = true ∧
      ((Schema.ofChecked portsByRank).modelModules {}).toOption.map (·.map fun made =>
        made.columns.map ColumnLine.render) =
        some [["    id = db.Column(db.Integer, primary_key=True)",
          "    label = db.Column(db.String(255), default=nan)",
          "    rank = db.Column(db.Integer, default=007)"]] ∧
      ¬ Literal.IsExpression (Literal.ofDefault .string "nan") ∧
      ¬ Literal.IsExpression (Literal.ofDefault .integer "007") := by
  have hpasted : Literal.ofDefault .string "nan" = "nan" ∧
      Literal.ofDefault .integer "007" = "007" := by decide +kernel
  have hname : Literal.IsForeign "nan".toList := by decide
  have hpadded : Literal.IsForeign "007".toList := by decide
  rw [hpasted.1, hpasted.2]
  exact ⟨compile_eq_ok_iff.mpr ⟨by decide +kernel, rfl⟩, by decide +kernel, by decide +kernel,
    Literal.not_isExpression_of_isForeign hname, Literal.not_isExpression_of_isForeign hpadded⟩

end SchemaLang
