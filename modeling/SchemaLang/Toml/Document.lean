import SchemaLang.Toml.Reader

/-!
# Lines of TOML documents

A line is blank, assigns a value to a key, or is a header, which opens a section. Reading a document
is reading its lines and putting the sections together.
-/

namespace SchemaLang.Toml

open Json (Step)

/-- A line of a document. -/
inductive Line where
  | blank
  | assignment (assignment : Assignment)
  | header (path : List String) (key : String) (isRepeated : Bool)

/-- The text behind the brackets that close a header. -/
def closeHeader? (isRepeated : Bool) : List Char → Option (List Char)
  | ']' :: rest =>
    if isRepeated then
      match rest with
      | ']' :: rest => some rest
      | _ => none
    else some rest
  | _ => none

theorem length_lt_of_closeHeader? {isRepeated : Bool} {s rest : List Char}
    (h : closeHeader? isRepeated s = some rest) : rest.length < s.length := by
  unfold closeHeader? at h
  split at h
  · split at h
    · split at h
      · simp only [Option.some.injEq] at h
        subst h
        simp only [List.length_cons]
        omega
      · simp at h
    · simp only [Option.some.injEq] at h
      subst h
      simp
  · simp at h

/-- A header behind its opening brackets. -/
def readHeader (isRepeated : Bool) (s : List Char) : Step Line s :=
  match readKey s with
  | none => none
  | some ⟨((path, key), rest), h⟩ =>
    match hclose : closeHeader? isRepeated rest with
    | none => none
    | some rest' =>
      match hend : lineEnd? rest' with
      | none => none
      | some left =>
        some ⟨(.header path key isRepeated, left), by
          have := length_lt_of_closeHeader? hclose
          have := length_le_of_lineEnd? hend
          dsimp only at h ⊢
          omega⟩

/-- An assignment. -/
def readAssignment (s : List Char) : Step Line s :=
  match readKey s with
  | none => none
  | some ⟨((path, key), s₁), h₁⟩ =>
    match expect? '=' s₁ with
    | none => none
    | some ⟨s₂, h₂⟩ =>
      match readValue 0 (skipBlanks s₂) with
      | none => none
      | some ⟨(value, rest), h⟩ =>
        match hend : lineEnd? rest with
        | none => none
        | some left =>
          have hvalue : rest.length < s₂.length := Nat.lt_of_lt_of_le h (length_skipBlanks_le s₂)
          have hkey : s₂.length < s.length := Nat.lt_trans h₂ h₁
          some ⟨(.assignment { path, key, value }, left),
            Nat.lt_of_le_of_lt (length_le_of_lineEnd? hend) (Nat.lt_trans hvalue hkey)⟩

/-- A line that is not blank. -/
def readEntry (s : List Char) : Step Line s :=
  match s with
  | '[' :: '[' :: rest => weaken (by simp only [List.length_cons]; omega) (readHeader true rest)
  | '[' :: rest => weaken (length_le_succ rest) (readHeader false rest)
  | s => readAssignment s

/-- A line and its end. -/
def readLine (s : List Char) (hs : s ≠ []) : Step Line s :=
  match h : lineEnd? s with
  | some left => some ⟨(.blank, left), length_lt_of_lineEnd? hs h⟩
  | none => weaken (length_skipBlanks_le s) (readEntry (skipBlanks s))

/-- All lines of a document. -/
def readLines (s : List Char) : Option (List Line) :=
  if hs : s = [] then some []
  else
    match readLine s hs with
    | none => none
    | some ⟨(line, rest), _⟩ => (readLines rest).map (line :: ·)
termination_by s.length

/-- The assignments before the first header, and the sections. -/
def sectionsOf : List Line → List Assignment × List Section
  | [] => ([], [])
  | .blank :: rest => sectionsOf rest
  | .assignment a :: rest =>
    let (assignments, sections) := sectionsOf rest
    (a :: assignments, sections)
  | .header path key isRepeated :: rest =>
    let (assignments, sections) := sectionsOf rest
    ([], { path, key, isRepeated, assignments } :: sections)

/-- The text behind a byte order mark. -/
def dropByteOrderMark : List Char → List Char
  | c :: rest => if c.toNat = 0xFEFF then rest else c :: rest
  | [] => []

/-- The table that a document describes. -/
def ofDocument? (s : String) : Option Members := do
  let (assignments, sections) := sectionsOf (← readLines (dropByteOrderMark s.toList))
  ofSections? assignments sections

end SchemaLang.Toml
