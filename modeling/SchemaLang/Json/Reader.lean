import SchemaLang.Json.Basic

/-!
# Reading JSON

A reader takes a text apart from the front and hands on the rest, which is shorter by its type, so
that reading comes to an end. Blanks are space, tab, line feed and carriage return.
-/

namespace SchemaLang.Json

/-- The blanks between the parts of a document. -/
def isBlank (c : Char) : Bool :=
  c == ' ' || c == '\t' || c == '\n' || c == '\r'

/-- The text behind its leading blanks. -/
def skipBlanks (s : List Char) : List Char :=
  s.dropWhile isBlank

theorem length_dropWhile_le (p : Char → Bool) (s : List Char) :
    (s.dropWhile p).length ≤ s.length :=
  (List.dropWhile_suffix p).length_le

theorem length_skipBlanks_le (s : List Char) : (skipBlanks s).length ≤ s.length :=
  length_dropWhile_le isBlank s

/-- What a reader makes of a text: a value and the rest behind it. -/
abbrev Step (α : Type) (s : List Char) : Type :=
  Option { p : α × List Char // p.2.length < s.length }

/-- The text behind blanks and the given character. -/
def expect? (c : Char) (s : List Char) : Option { rest : List Char // rest.length < s.length } :=
  match h : skipBlanks s with
  | [] => none
  | d :: rest =>
    if d = c then
      some ⟨rest, by
        have := length_skipBlanks_le s
        rw [h, List.length_cons] at this
        omega⟩
    else none

/-! ## Strings -/

/-- A part of a string: a character, or an escape by the number of a UTF-16 unit. -/
inductive StringUnit where
  | char (c : Char)
  | code (n : Nat)
  deriving DecidableEq, Repr

/-- The value of a hexadecimal digit. -/
def hexDigit? (c : Char) : Option Nat :=
  if '0' ≤ c ∧ c ≤ '9' then some (c.toNat - '0'.toNat)
  else if 'a' ≤ c ∧ c ≤ 'f' then some (c.toNat - 'a'.toNat + 10)
  else if 'A' ≤ c ∧ c ≤ 'F' then some (c.toNat - 'A'.toNat + 10)
  else none

/-- The character that a one-letter escape stands for. -/
def shortEscape? (c : Char) : Option Char :=
  match c with
  | '"' => some '"'
  | '\\' => some '\\'
  | '/' => some '/'
  | 'b' => some (Char.ofNat 8)
  | 'f' => some (Char.ofNat 12)
  | 'n' => some '\n'
  | 'r' => some '\r'
  | 't' => some '\t'
  | _ => none

/-- The unit that four hexadecimal digits stand for. -/
def hexUnit? (a b c d : Char) : Option StringUnit := do
  some (.code (4096 * (← hexDigit? a) + 256 * (← hexDigit? b) + 16 * (← hexDigit? c) +
    (← hexDigit? d)))

/-- The parts of a string up to its closing quote, and the rest behind that. -/
def readUnits : List Char → Option (List StringUnit × List Char)
  | [] => none
  | '"' :: rest => some ([], rest)
  | '\\' :: 'u' :: a :: b :: c :: d :: rest => do
    let unit ← hexUnit? a b c d
    let (units, left) ← readUnits rest
    some (unit :: units, left)
  | '\\' :: e :: rest => do
    let c ← shortEscape? e
    let (units, left) ← readUnits rest
    some (.char c :: units, left)
  | c :: rest =>
    if c.toNat < 0x20 then none
    else do
      let (units, left) ← readUnits rest
      some (.char c :: units, left)

theorem length_lt_of_readUnits {s rest : List Char} {units : List StringUnit}
    (h : readUnits s = some (units, rest)) : rest.length < s.length := by
  fun_induction readUnits s generalizing units with
  | case1 => simp at h
  | case2 tail =>
    simp only [Option.some.injEq, Prod.mk.injEq] at h
    simp [h.2]
  | case3 a b c d tail ih =>
    simp only [Option.bind_eq_bind, Option.bind_eq_some_iff, Option.some.injEq,
      Prod.mk.injEq] at h
    obtain ⟨_, _, ⟨_, _⟩, h, rfl, rfl⟩ := h
    have := ih h
    dsimp only [List.length_cons] at this ⊢
    omega
  | case4 e tail _ ih =>
    simp only [Option.bind_eq_bind, Option.bind_eq_some_iff, Option.some.injEq,
      Prod.mk.injEq] at h
    obtain ⟨_, _, ⟨_, _⟩, h, rfl, rfl⟩ := h
    have := ih h
    dsimp only [List.length_cons] at this ⊢
    omega
  | case5 => simp at h
  | case6 c tail _ _ _ _ ih =>
    simp only [Option.bind_eq_bind, Option.bind_eq_some_iff, Option.some.injEq,
      Prod.mk.injEq] at h
    obtain ⟨⟨_, _⟩, h, rfl, rfl⟩ := h
    have := ih h
    dsimp only [List.length_cons] at this ⊢
    omega

/-- The text that the parts of a string make up. Two escapes for the halves of a surrogate pair make
    one character; a half without its partner makes no text. -/
def decodeUnits : List StringUnit → Option (List Char)
  | [] => some []
  | .char c :: rest => (decodeUnits rest).map (c :: ·)
  | .code n :: rest =>
    if n < 0xD800 ∨ 0xDFFF < n then (decodeUnits rest).map (Char.ofNat n :: ·)
    -- The second half of a pair, with no first half in front.
    else if 0xDBFF < n then none
    else
      match rest with
      | .code m :: rest =>
        if 0xDC00 ≤ m ∧ m ≤ 0xDFFF then
          (decodeUnits rest).map
            (Char.ofNat (0x10000 + 0x400 * (n - 0xD800) + (m - 0xDC00)) :: ·)
        else none
      | _ => none

/-- Reads a string behind its opening quote. -/
def readString (s : List Char) : Step (Option String) s :=
  match h : readUnits s with
  | none => none
  | some (units, rest) =>
    some ⟨((decodeUnits units).map String.ofList, rest), length_lt_of_readUnits h⟩

/-! ## Numbers -/

/-- The digits in front of a text, which must be there, and the rest. -/
def readDigits? (s : List Char) : Option (List Char × List Char) :=
  let digits := s.takeWhile Char.isDigit
  if digits.isEmpty then none else some (digits, s.dropWhile Char.isDigit)

/-- The whole part of a number: a zero, or digits that do not start with one. -/
def readWhole? : List Char → Option (List Char × List Char)
  | '0' :: rest => some (['0'], rest)
  | s => readDigits? s

/-- The digits behind a point, if there is one. -/
def readFraction? : List Char → Option (List Char × List Char)
  | '.' :: rest => readDigits? rest
  | s => some ([], s)

/-- The sign of an exponent. -/
def readSign : List Char → Bool × List Char
  | '-' :: rest => (true, rest)
  | '+' :: rest => (false, rest)
  | s => (false, s)

/-- The exponent, if there is one. -/
def readExponent? : List Char → Option (Option (Bool × List Char) × List Char)
  | c :: rest =>
    if c = 'e' ∨ c = 'E' then do
      let (negative, s) := readSign rest
      let (digits, left) ← readDigits? s
      some (some (negative, digits), left)
    else some (none, c :: rest)
  | [] => some (none, [])

/-- A number without its sign. -/
def readUnsigned? (negative : Bool) (s : List Char) : Option (JsonNumber × List Char) := do
  let (whole, s) ← readWhole? s
  let (fraction, s) ← readFraction? s
  let (exponent, s) ← readExponent? s
  some ({ negative, whole, fraction, exponent }, s)

theorem length_lt_of_readDigits? {s digits rest : List Char}
    (h : readDigits? s = some (digits, rest)) : rest.length < s.length := by
  simp only [readDigits?] at h
  split at h
  · simp at h
  · next hne =>
    simp only [Option.some.injEq, Prod.mk.injEq] at h
    obtain ⟨rfl, rfl⟩ := h
    have hlen := congrArg List.length (List.takeWhile_append_dropWhile (p := Char.isDigit) (l := s))
    rw [List.length_append] at hlen
    have : 0 < (s.takeWhile Char.isDigit).length := by
      apply List.length_pos_iff.mpr
      simpa using hne
    omega

theorem length_lt_of_readWhole? {s whole rest : List Char}
    (h : readWhole? s = some (whole, rest)) : rest.length < s.length := by
  unfold readWhole? at h
  split at h
  · simp only [Option.some.injEq, Prod.mk.injEq] at h
    simp [h.2]
  · exact length_lt_of_readDigits? h

theorem length_le_of_readFraction? {s fraction rest : List Char}
    (h : readFraction? s = some (fraction, rest)) : rest.length ≤ s.length := by
  unfold readFraction? at h
  split at h
  · have := length_lt_of_readDigits? h
    simp only [List.length_cons]
    omega
  · simp only [Option.some.injEq, Prod.mk.injEq] at h
    simp [h.2]

theorem length_readSign_le (s : List Char) : (readSign s).2.length ≤ s.length := by
  unfold readSign
  split <;> simp

theorem length_le_of_readExponent? {s rest : List Char} {exponent : Option (Bool × List Char)}
    (h : readExponent? s = some (exponent, rest)) : rest.length ≤ s.length := by
  unfold readExponent? at h
  split at h
  · next c tail =>
    split at h
    · simp only [Option.bind_eq_bind, Option.bind_eq_some_iff, Option.some.injEq,
        Prod.mk.injEq] at h
      obtain ⟨⟨_, _⟩, h, rfl, rfl⟩ := h
      have := length_lt_of_readDigits? h
      have := length_readSign_le tail
      simp only [List.length_cons]
      omega
    · simp only [Option.some.injEq, Prod.mk.injEq] at h
      simp [← h.2]
  · simp only [Option.some.injEq, Prod.mk.injEq] at h
    simp [← h.2]

theorem length_lt_of_readUnsigned? {negative : Bool} {s rest : List Char} {n : JsonNumber}
    (h : readUnsigned? negative s = some (n, rest)) : rest.length < s.length := by
  simp only [readUnsigned?, Option.bind_eq_bind, Option.bind_eq_some_iff, Option.some.injEq,
    Prod.mk.injEq] at h
  obtain ⟨⟨_, _⟩, hwhole, ⟨_, _⟩, hfraction, ⟨_, _⟩, hexponent, _, rfl⟩ := h
  have := length_lt_of_readWhole? hwhole
  have := length_le_of_readFraction? hfraction
  have := length_le_of_readExponent? hexponent
  dsimp only at *
  omega

/-- Reads a number. -/
def readNumber (negative : Bool) (s : List Char) : Step JsonNumber s :=
  match h : readUnsigned? negative s with
  | none => none
  | some (n, rest) => some ⟨(n, rest), length_lt_of_readUnsigned? h⟩

/-! ## Values -/

mutual

/-- Reads a value that starts the text. -/
def readValue (s : List Char) : Step Json s :=
  match s with
  | [] => none
  | '[' :: rest =>
    match expect? ']' rest with
    | some ⟨left, h⟩ => some ⟨(array [], left), by simp; omega⟩
    | none =>
      match readElements rest with
      | some ⟨(elements, left), h⟩ => some ⟨(array elements, left), by simp at h ⊢; omega⟩
      | none => none
  | '\x7b' :: rest =>
    match expect? '\x7d' rest with
    | some ⟨left, h⟩ => some ⟨(object [], left), by simp; omega⟩
    | none =>
      match readMembers rest with
      | some ⟨(members, left), h⟩ => some ⟨(object members, left), by simp at h ⊢; omega⟩
      | none => none
  | '"' :: rest =>
    match readString rest with
    | some ⟨(text, left), h⟩ => some ⟨(string text, left), by simp at h ⊢; omega⟩
    | none => none
  | 'n' :: 'u' :: 'l' :: 'l' :: rest => some ⟨(null, rest), by simp; omega⟩
  | 't' :: 'r' :: 'u' :: 'e' :: rest => some ⟨(bool true, rest), by simp; omega⟩
  | 'f' :: 'a' :: 'l' :: 's' :: 'e' :: rest => some ⟨(bool false, rest), by simp; omega⟩
  | '-' :: rest =>
    match readNumber true rest with
    | some ⟨(n, left), h⟩ => some ⟨(number n, left), by simp at h ⊢; omega⟩
    | none => none
  | c :: rest =>
    match readNumber false (c :: rest) with
    | some ⟨(n, left), h⟩ => some ⟨(number n, left), h⟩
    | none => none
termination_by 2 * s.length

/-- Reads the elements of an array that has some, and its end. -/
def readElements (s : List Char) : Step (List Json) s :=
  have hs := length_skipBlanks_le s
  match readValue (skipBlanks s) with
  | none => none
  | some ⟨(v, rest), h⟩ =>
    have h : rest.length < (skipBlanks s).length := h
    match expect? ',' rest with
    | some ⟨rest', h'⟩ =>
      match readElements rest' with
      | some ⟨(elements, left), h''⟩ => some ⟨(v :: elements, left), by simp at h'' ⊢; omega⟩
      | none => none
    | none =>
      match expect? ']' rest with
      | some ⟨left, h'⟩ => some ⟨([v], left), by simp; omega⟩
      | none => none
termination_by 2 * s.length + 1

/-- Reads the members of an object that has some, and its end. -/
def readMembers (s : List Char) : Step (List (Option String × Json)) s :=
  match expect? '"' s with
  | none => none
  | some ⟨s₁, h₁⟩ =>
    match readString s₁ with
    | none => none
    | some ⟨(key, s₂), h₂⟩ =>
      have h₂ : s₂.length < s₁.length := h₂
      match expect? ':' s₂ with
      | none => none
      | some ⟨s₃, h₃⟩ =>
        have hs := length_skipBlanks_le s₃
        match readValue (skipBlanks s₃) with
        | none => none
        | some ⟨(v, rest), h⟩ =>
          have h : rest.length < (skipBlanks s₃).length := h
          match expect? ',' rest with
          | some ⟨rest', h'⟩ =>
            match readMembers rest' with
            | some ⟨(members, left), h''⟩ =>
              some ⟨((key, v) :: members, left), by simp at h'' ⊢; omega⟩
            | none => none
          | none =>
            match expect? '\x7d' rest with
            | some ⟨left, h'⟩ => some ⟨([(key, v)], left), by simp; omega⟩
            | none => none
termination_by 2 * s.length + 1

end

/-- Reads a document: one value, with nothing but blanks around it. -/
def ofDocument? (s : String) : Option Json :=
  match readValue (skipBlanks s.toList) with
  | some ⟨(v, rest), _⟩ => if (skipBlanks rest).isEmpty then some v else none
  | none => none

end SchemaLang.Json
