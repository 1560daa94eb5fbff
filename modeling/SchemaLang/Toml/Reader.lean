import SchemaLang.Json.Reader
import SchemaLang.Toml.Scalar

/-!
# Reading TOML

A document is a row of assignments and headers, one to a line, with comments behind them or on lines
of their own. As in the reading of JSON, a reader hands on a rest that is shorter by its type. Keys
of many parts and values nested deep are refused.
-/

namespace SchemaLang.Toml

open Json (Step hexDigit?)

/-! ## Characters and lines -/

/-- A blank inside a line. -/
def isBlank (c : Char) : Bool := c == ' ' || c == '\t'

/-- The text behind its leading blanks. -/
def skipBlanks (s : List Char) : List Char := s.dropWhile isBlank

/-- A character that may stand in a comment or a string as it is: no control but the tab. -/
def isPlain (c : Char) : Bool :=
  c == '\t' || (0x20 ≤ c.toNat && c.toNat != 0x7F)

/-- The text behind a line end. -/
def newline? : List Char → Option (List Char)
  | '\n' :: rest => some rest
  | '\r' :: '\n' :: rest => some rest
  | _ => none

/-- The text behind a comment, if there is one. -/
def skipComment : List Char → List Char
  | '#' :: rest => rest.dropWhile isPlain
  | s => s

/-- The text behind blanks, a comment, and a line end or the end of the document. -/
def lineEnd? (s : List Char) : Option (List Char) :=
  match skipComment (skipBlanks s) with
  | [] => some []
  | rest => newline? rest

theorem length_skipBlanks_le (s : List Char) : (skipBlanks s).length ≤ s.length :=
  Json.length_dropWhile_le isBlank s

theorem length_lt_of_skipBlanks {s rest : List Char} {c : Char} (h : skipBlanks s = c :: rest) :
    rest.length < s.length := by
  have := length_skipBlanks_le s
  rw [h, List.length_cons] at this
  omega

theorem length_lt_of_newline? {s rest : List Char} (h : newline? s = some rest) :
    rest.length < s.length := by
  unfold newline? at h
  split at h
  · cases h
    simp only [List.length_cons]
    omega
  · cases h
    simp only [List.length_cons]
    omega
  · cases h

theorem length_skipComment_le (s : List Char) : (skipComment s).length ≤ s.length := by
  unfold skipComment
  split
  · next rest =>
    have := Json.length_dropWhile_le isPlain rest
    simp only [List.length_cons]
    omega
  · simp

theorem length_le_of_lineEnd? {s rest : List Char} (h : lineEnd? s = some rest) :
    rest.length ≤ s.length := by
  have hb := length_skipBlanks_le s
  have hc := length_skipComment_le (skipBlanks s)
  unfold lineEnd? at h
  split at h
  · simp_all
  · have := length_lt_of_newline? h
    omega

theorem length_lt_of_lineEnd? {s rest : List Char} (hs : s ≠ []) (h : lineEnd? s = some rest) :
    rest.length < s.length := by
  have hb := length_skipBlanks_le s
  have hc := length_skipComment_le (skipBlanks s)
  have hpos := List.length_pos_iff.mpr hs
  unfold lineEnd? at h
  split at h
  · simp_all
  · have := length_lt_of_newline? h
    omega

/-! ## Strings -/

/-- The character that a one-letter escape stands for. -/
def shortEscape? (c : Char) : Option Char :=
  match c with
  | 'b' => some (Char.ofNat 8)
  | 't' => some '\t'
  | 'n' => some '\n'
  | 'f' => some (Char.ofNat 12)
  | 'r' => some '\r'
  | '"' => some '"'
  | '\\' => some '\\'
  | _ => none

/-- The character whose number some hexadecimal digits give. -/
def hexChar? (digits : List Char) : Option Char := do
  let values ← digits.mapM hexDigit?
  let n := values.foldl (fun n v => 16 * n + v) 0
  if n.isValidChar then some (Char.ofNat n) else none

/-- The escape behind a backslash, and the rest. -/
def readEscape? : List Char → Option (Char × List Char)
  | 'u' :: a :: b :: c :: d :: rest => do some (← hexChar? [a, b, c, d], rest)
  | 'U' :: a :: b :: c :: d :: e :: f :: g :: h :: rest => do
    some (← hexChar? [a, b, c, d, e, f, g, h], rest)
  | c :: rest => do some (← shortEscape? c, rest)
  | [] => none

theorem length_lt_of_readEscape? {s rest : List Char} {c : Char}
    (h : readEscape? s = some (c, rest)) : rest.length < s.length := by
  unfold readEscape? at h
  split at h
  all_goals
    simp only [Option.bind_eq_bind, Option.bind_eq_some_iff, Option.some.injEq, Prod.mk.injEq,
      reduceCtorEq] at h
  all_goals
    obtain ⟨_, _, _, rfl⟩ := h
    simp only [List.length_cons]
    omega

/-- A string in double quotes, behind the opening one. -/
def readBasic (s : List Char) : Step (List Char) s :=
  match s with
  | [] => none
  | '"' :: rest => some ⟨([], rest), Nat.lt_succ_self _⟩
  | '\\' :: rest =>
    match h : readEscape? rest with
    | none => none
    | some (c, left) =>
      have hlt := length_lt_of_readEscape? h
      match readBasic left with
      | some ⟨(text, left'), h'⟩ => some ⟨(c :: text, left'), Nat.lt_succ_of_lt (Nat.lt_trans h' hlt)⟩
      | none => none
  | c :: rest =>
    if isPlain c then
      match readBasic rest with
      | some ⟨(text, left), h⟩ => some ⟨(c :: text, left), Nat.lt_succ_of_lt h⟩
      | none => none
    else none
termination_by s.length
decreasing_by
  · exact Nat.lt_succ_of_lt hlt
  · exact Nat.lt_succ_self _

/-- A string in single quotes, behind the opening one. -/
def readLiteral (s : List Char) : Step (List Char) s :=
  match s with
  | [] => none
  | '\'' :: rest => some ⟨([], rest), by simp⟩
  | c :: rest =>
    if isPlain c then
      match readLiteral rest with
      | some ⟨(text, left), h⟩ => some ⟨(c :: text, left), by simp at h ⊢; omega⟩
      | none => none
    else none

/-- The number of quotes in front. -/
def quoteRun (quote : Char) (s : List Char) : Nat :=
  (s.takeWhile (· == quote)).length

/-- The end of a string in triple quotes: three of them, before which two more may stand that belong
    to the string. -/
def closeTriple? (quote : Char) (s : List Char) : Option (List Char × List Char) :=
  if 3 ≤ quoteRun quote s ∧ quoteRun quote s ≤ 5 then
    some (List.replicate (quoteRun quote s - 3) quote, s.drop (quoteRun quote s))
  else none

theorem length_lt_of_closeTriple? {quote : Char} {s text rest : List Char}
    (h : closeTriple? quote s = some (text, rest)) : rest.length < s.length := by
  simp only [closeTriple?] at h
  split at h
  · next hrun =>
    simp only [Option.some.injEq, Prod.mk.injEq] at h
    have hle : quoteRun quote s ≤ s.length :=
      (List.takeWhile_prefix (· == quote)).length_le
    rw [← h.2, List.length_drop]
    omega
  · simp at h

/-- A string in triple double quotes, behind the opening ones. A backslash at the end of a line
    takes the line end and all blanks and line ends behind it away; `skipping` says that this is
    under way. -/
def readTripleBasic (skipping : Bool) (s : List Char) : Step (List Char) s :=
  match hs : s with
  | [] => none
  | c :: rest =>
    match hn : newline? s with
    | some left =>
      have hlt := length_lt_of_newline? hn
      match readTripleBasic skipping left with
      | some ⟨(text, left'), h⟩ =>
        some ⟨(if skipping then text else '\n' :: text, left'), hs ▸ Nat.lt_trans h hlt⟩
      | none => none
    | none =>
      if skipping && isBlank c then
        match readTripleBasic true rest with
        | some ⟨(text, left), h⟩ => some ⟨(text, left), Nat.lt_succ_of_lt h⟩
        | none => none
      else if c = '"' ∧ 3 ≤ quoteRun '"' s then
        match h : closeTriple? '"' s with
        | some (text, left) => some ⟨(text, left), hs ▸ length_lt_of_closeTriple? h⟩
        | none => none
      else if c = '\\' then
        if (newline? (skipBlanks rest)).isSome then
          match readTripleBasic true rest with
          | some ⟨(text, left), h⟩ => some ⟨(text, left), Nat.lt_succ_of_lt h⟩
          | none => none
        else
          match h : readEscape? rest with
          | none => none
          | some (d, left) =>
            have hlt := length_lt_of_readEscape? h
            match readTripleBasic false left with
            | some ⟨(text, left'), h'⟩ =>
              some ⟨(d :: text, left'), Nat.lt_succ_of_lt (Nat.lt_trans h' hlt)⟩
            | none => none
      else if isPlain c then
        match readTripleBasic false rest with
        | some ⟨(text, left), h⟩ => some ⟨(c :: text, left), Nat.lt_succ_of_lt h⟩
        | none => none
      else none
termination_by s.length
decreasing_by
  all_goals subst hs
  · exact hlt
  · exact Nat.lt_succ_self _
  · exact Nat.lt_succ_self _
  · exact Nat.lt_succ_of_lt hlt
  · exact Nat.lt_succ_self _

/-- A string in triple single quotes, behind the opening ones. -/
def readTripleLiteral (s : List Char) : Step (List Char) s :=
  match hs : s with
  | [] => none
  | c :: rest =>
    match hn : newline? s with
    | some left =>
      have hlt := length_lt_of_newline? hn
      match readTripleLiteral left with
      | some ⟨(text, left'), h⟩ =>
        some ⟨('\n' :: text, left'), by subst hs; simp at h hlt ⊢; omega⟩
      | none => none
    | none =>
      if c = '\'' ∧ 3 ≤ quoteRun '\'' s then
        match h : closeTriple? '\'' s with
        | some (text, left) =>
          some ⟨(text, left), by have := length_lt_of_closeTriple? h; subst hs; simpa using this⟩
        | none => none
      else if isPlain c then
        match readTripleLiteral rest with
        | some ⟨(text, left), h⟩ => some ⟨(c :: text, left), by simp at h ⊢; omega⟩
        | none => none
      else none
termination_by s.length
decreasing_by all_goals simp_all

/-- The text behind a line end, or the text itself. -/
def dropNewline (s : List Char) : List Char :=
  (newline? s).getD s

theorem length_dropNewline_le (s : List Char) : (dropNewline s).length ≤ s.length := by
  unfold dropNewline
  cases h : newline? s with
  | none => simp
  | some rest =>
    have := length_lt_of_newline? h
    simp only [Option.getD_some]
    omega

theorem length_le_succ (rest : List Char) : rest.length ≤ rest.length + 1 :=
  Nat.le_succ _

/-- A step from a later place in the text. -/
def weaken {α : Type} {s t : List Char} (h : t.length ≤ s.length) : Step α t → Step α s
  | none => none
  | some ⟨p, hp⟩ => some ⟨p, by omega⟩

/-- A string of any kind, if the text starts with one. A line end that directly follows triple
    quotes does not belong to the string. -/
def readString (s : List Char) : Step (List Char) s :=
  match s with
  | '"' :: '"' :: '"' :: rest =>
    have := length_dropNewline_le rest
    weaken (by simp only [List.length_cons]; omega) (readTripleBasic false (dropNewline rest))
  | '\'' :: '\'' :: '\'' :: rest =>
    have := length_dropNewline_le rest
    weaken (by simp only [List.length_cons]; omega) (readTripleLiteral (dropNewline rest))
  | '"' :: rest => weaken (by simp) (readBasic rest)
  | '\'' :: rest => weaken (by simp) (readLiteral rest)
  | _ => none

/-! ## Keys -/

/-- A character of a key without quotes. -/
def isKeyChar (c : Char) : Bool :=
  c.isAlphanum || c == '-' || c == '_'

/-- One part of a key. -/
def readKeyPart (s : List Char) : Step (List Char) s :=
  match s with
  | [] => none
  | '"' :: rest => weaken (by simp) (readBasic rest)
  | '\'' :: rest => weaken (by simp) (readLiteral rest)
  | c :: rest =>
    if isKeyChar c then
      some ⟨(c :: rest.takeWhile isKeyChar, rest.dropWhile isKeyChar), by
        have := Json.length_dropWhile_le isKeyChar rest
        simp only [List.length_cons]
        omega⟩
    else none

/-- The parts of a dotted key. -/
def readKeyParts (s : List Char) : Step (List String) s :=
  have hs := length_skipBlanks_le s
  match readKeyPart (skipBlanks s) with
  | none => none
  | some ⟨(part, rest), h⟩ =>
    have h : rest.length < (skipBlanks s).length := h
    have hr := length_skipBlanks_le rest
    match hdot : skipBlanks rest with
    | '.' :: rest' =>
      have hdot : rest'.length < (skipBlanks rest).length := by simp [hdot]
      match readKeyParts rest' with
      | some ⟨(parts, left), h'⟩ =>
        some ⟨(String.ofList part :: parts, left), by simp at h' ⊢; omega⟩
      | none => none
    | left =>
      some ⟨([String.ofList part], left), by
        subst hdot
        dsimp only
        omega⟩
termination_by s.length

/-- The greatest number of parts of a key, and of values around one another, is one less than this.
    -/
def nestingLimit : Nat := 80

/-- A key: the tables on the way, and the last part. -/
def readKey (s : List Char) : Step (List String × String) s :=
  match readKeyParts s with
  | none => none
  | some ⟨(parts, rest), h⟩ =>
    match parts.getLast? with
    | some last =>
      if parts.length < nestingLimit then some ⟨((parts.dropLast, last), rest), h⟩ else none
    | none => none

/-! ## Values -/

/-- A character that ends a scalar. -/
def endsScalar (c : Char) : Bool :=
  isBlank c || c == '\n' || c == '\r' || c == ',' || c == ']' || c == '\x7d' || c == '#'

/-- The text of the scalar in front. A date takes a time behind a single space with it. -/
def scalarText (s : List Char) : List Char :=
  let first := s.takeWhile (!endsScalar ·)
  match s.dropWhile (!endsScalar ·) with
  | ' ' :: rest =>
    let second := rest.takeWhile (!endsScalar ·)
    if isDate first && isOffsetTime second then first ++ ' ' :: second else first
  | _ => first

/-- A scalar. -/
def readScalar (s : List Char) : Step Toml s :=
  let text := scalarText s
  if h : text ≠ [] ∧ s ≠ [] then
    match scalar? text with
    | some v => some ⟨(v, s.drop text.length), by
        have := List.length_pos_iff.mpr h.1
        have := List.length_pos_iff.mpr h.2
        rw [List.length_drop]
        omega⟩
    | none => none
  else none

/-- The text behind the blanks, line ends and comments between the elements of an array. -/
def skipLines (inComment : Bool) : List Char → List Char
  | [] => []
  | '\n' :: rest => skipLines false rest
  | '\r' :: '\n' :: rest => skipLines false rest
  | c :: rest =>
    if inComment then (if isPlain c then skipLines true rest else c :: rest)
    else if isBlank c then skipLines false rest
    else if c = '#' then skipLines true rest
    else c :: rest

theorem length_skipLines_le (inComment : Bool) (s : List Char) :
    (skipLines inComment s).length ≤ s.length := by
  fun_induction skipLines inComment s <;> simp only [List.length_cons, List.length_nil] <;> omega

/-- The text behind blanks and the given character, on the same line. -/
def expect? (c : Char) (s : List Char) : Option { rest : List Char // rest.length < s.length } :=
  match h : skipBlanks s with
  | [] => none
  | d :: rest => if d = c then some ⟨rest, length_lt_of_skipBlanks h⟩ else none

mutual

/-- A value inside `depth` arrays and tables in braces. -/
def readValue (depth : Nat) (s : List Char) : Step Toml s :=
  match s with
  | [] => none
  | '[' :: rest =>
    if depth + 1 < nestingLimit then
      match readElements (depth + 1) rest with
      | some ⟨(elements, left), h⟩ => some ⟨(array elements, left), by simp at h ⊢; omega⟩
      | none => none
    else none
  | '\x7b' :: rest =>
    if depth + 1 < nestingLimit then
      match expect? '\x7d' rest with
      | some ⟨left, h⟩ => some ⟨(inline [], left), by simp; omega⟩
      | none =>
        match readMembers (depth + 1) rest with
        | some ⟨(assignments, left), h⟩ =>
          match addAll? [] assignments with
          | some members => some ⟨(inline members, left), by simp at h ⊢; omega⟩
          | none => none
        | none => none
    else none
  | c :: rest =>
    if c = '"' ∨ c = '\'' then
      match readString (c :: rest) with
      | some ⟨(text, left), h⟩ => some ⟨(string (String.ofList text), left), h⟩
      | none => none
    else readScalar (c :: rest)
termination_by 2 * s.length

/-- The elements of an array and its end. A comma may follow the last one. -/
def readElements (depth : Nat) (s : List Char) : Step (List Toml) s :=
  have hs := length_skipLines_le false s
  match hstart : skipLines false s with
  | ']' :: left => some ⟨([], left), by rw [hstart] at hs; simp at hs ⊢; omega⟩
  | start =>
    have hstart : start.length ≤ s.length := by rw [← hstart]; exact hs
    match readValue depth start with
    | none => none
    | some ⟨(v, rest), h⟩ =>
      have h : rest.length < start.length := h
      have hr := length_skipLines_le false rest
      match hrest : skipLines false rest with
      | ',' :: rest' =>
        have hrest : rest'.length < (skipLines false rest).length := by simp [hrest]
        match readElements depth rest' with
        | some ⟨(elements, left), h'⟩ => some ⟨(v :: elements, left), by simp at h' ⊢; omega⟩
        | none => none
      | ']' :: left =>
        some ⟨([v], left), by rw [hrest] at hr; simp at hr ⊢; omega⟩
      | _ => none
termination_by 2 * s.length + 1

/-- The members of a table in braces that has some, and its end. -/
def readMembers (depth : Nat) (s : List Char) : Step (List Assignment) s :=
  match readKey s with
  | none => none
  | some ⟨((path, key), s₁), h₁⟩ =>
    have h₁ : s₁.length < s.length := h₁
    match expect? '=' s₁ with
    | none => none
    | some ⟨s₂, h₂⟩ =>
      have hs := length_skipBlanks_le s₂
      match readValue depth (skipBlanks s₂) with
      | none => none
      | some ⟨(value, rest), h⟩ =>
        have h : rest.length < (skipBlanks s₂).length := h
        match expect? ',' rest with
        | some ⟨rest', h'⟩ =>
          match readMembers depth rest' with
          | some ⟨(assignments, left), h''⟩ =>
            some ⟨({ path, key, value } :: assignments, left), by simp at h'' ⊢; omega⟩
          | none => none
        | none =>
          match expect? '\x7d' rest with
          | some ⟨left, h'⟩ => some ⟨([{ path, key, value }], left), by simp; omega⟩
          | none => none
termination_by 2 * s.length + 1

end

end SchemaLang.Toml
