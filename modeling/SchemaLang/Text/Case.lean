import SchemaLang.Text.CaseTable

/-!
# Letter case

Lower and upper case forms of a text by the full mappings of the Unicode character database: a
character may become several, and a capital sigma at the end of a word becomes the final form.
Beside them stand the ASCII forms, which leave every other character alone.
-/

namespace SchemaLang.Text

/-- The code point lies in one of the ranges. -/
def inRanges (ranges : List (Nat × Nat)) (c : Char) : Bool :=
  ranges.any fun (first, last) => first ≤ c.toNat && c.toNat ≤ last

/-- The partner of a character in a list of runs, or the character itself. -/
def mapByRuns (runs : List CaseRun) (c : Char) : Char :=
  match runs.findSome? (·.map? c.toNat) with
  | some code => Char.ofNat code
  | none => c

/-- The lower case form of one character away from any other. -/
def lowerChar (c : Char) : List Char :=
  if c.toNat < 0x80 then [c.toLower]
  else if c.toNat = 0x130 then ['i', Char.ofNat 0x307]
  else [mapByRuns lowerRuns c]

/-- The upper case form of one character. -/
def upperChar (c : Char) : List Char :=
  if c.toNat < 0x80 then [c.toUpper]
  else
    match upperSequences.lookup c.toNat with
    | some codes => codes.map Char.ofNat
    | none => [mapByRuns upperRuns c]

/-- Past the characters that casing ignores, the next one is a letter with case. -/
def meetsCased (s : List Char) : Bool :=
  match s.dropWhile (inRanges caseIgnorableRanges) with
  | [] => false
  | c :: _ => inRanges casedRanges c

/-- The lower case form of a text; `before` holds what precedes it, nearest character first. A
    capital sigma takes its final form where a letter precedes it and none follows. -/
def lowerAfter (before : List Char) : List Char → List Char
  | [] => []
  | c :: rest =>
    (if c = 'Σ' then [if meetsCased before && !meetsCased rest then 'ς' else 'σ']
      else lowerChar c) ++ lowerAfter (c :: before) rest

/-- The lower case form of a text. -/
def lowerChars (s : List Char) : List Char :=
  lowerAfter [] s

/-- The upper case form of a text. -/
def upperChars (s : List Char) : List Char :=
  s.flatMap upperChar

/-- The lower case form of a string. -/
def lower (s : String) : String :=
  String.ofList (lowerChars s.toList)

/-- The upper case form of a string. -/
def upper (s : String) : String :=
  String.ofList (upperChars s.toList)

/-- The text with its ASCII letters in lower case. -/
def asciiLower (s : List Char) : List Char :=
  s.map Char.toLower

/-- Equality up to the case of ASCII letters. -/
def sameAsciiLetters (s t : String) : Bool :=
  asciiLower s.toList == asciiLower t.toList

@[simp] theorem sameAsciiLetters_self (s : String) : sameAsciiLetters s s = true := by
  simp [sameAsciiLetters]

theorem sameAsciiLetters_comm (s t : String) : sameAsciiLetters s t = sameAsciiLetters t s := by
  simp [sameAsciiLetters, Bool.beq_comm]

theorem sameAsciiLetters_iff {s t : String} :
    sameAsciiLetters s t = true ↔ asciiLower s.toList = asciiLower t.toList := by
  simp [sameAsciiLetters]

theorem lowerChar_of_ascii {c : Char} (h : c.toNat < 0x80) : lowerChar c = [c.toLower] := by
  simp [lowerChar, h]

/-- On ASCII text the full mapping is the ASCII one. -/
theorem lowerAfter_of_ascii {s : List Char} (h : ∀ c ∈ s, c.toNat < 0x80)
    (before : List Char) : lowerAfter before s = asciiLower s := by
  induction s generalizing before with
  | nil => rfl
  | cons c rest ih =>
    have hc := h c List.mem_cons_self
    have hsigma : c ≠ 'Σ' := by
      rintro rfl
      revert hc
      decide
    rw [lowerAfter, if_neg hsigma, lowerChar_of_ascii hc,
      ih (fun d hd => h d (List.mem_cons_of_mem _ hd))]
    rfl

/-- On ASCII text the full mapping is the ASCII one. -/
theorem lowerChars_of_ascii {s : List Char} (h : ∀ c ∈ s, c.toNat < 0x80) :
    lowerChars s = asciiLower s :=
  lowerAfter_of_ascii h []

/-- The full lower case form of a letter is what the word around it makes of it. -/
example : lower "ΟΔΟΣ Σ ΣΑ" = "οδος σ σα" := by decide +kernel

example : upper "straße ŉ" = "STRASSE ʼN" := by decide +kernel

end SchemaLang.Text
