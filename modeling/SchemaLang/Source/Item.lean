import SchemaLang.Source.Nesting
import SchemaLang.Text.Blank

/-!
# Items of a list

The items of an attribute block or of a column list stand between separators. A separator inside
brackets or quotes belongs to its item, blanks around an item do not, and empty items count for
nothing.
-/

namespace SchemaLang

/-- The character separates two items here. A quote or a bracket never does. -/
def isSeparator (sep : Char) (n : Nesting) (c : Char) : Bool :=
  n.isTop && c == sep && !(Nesting.isQuote c || Nesting.isOpener c || Nesting.isCloser c)

/-- The stretches of a text between its separators; there is one more of them than separators. -/
def pieces (sep : Char) : Nesting → List Char → List (List Char)
  | _, [] => [[]]
  | n, c :: rest =>
    if isSeparator sep n c then [] :: pieces sep n rest
    else (pieces sep (n.step c) rest).modifyHead (c :: ·)

/-- The items of a text: its trimmed pieces, less the empty ones. -/
def items (sep : Char) (s : List Char) : List (List Char) :=
  ((pieces sep .top s).map Text.trim).filter (!·.isEmpty)

theorem pieces_ne_nil (sep : Char) (n : Nesting) (s : List Char) : pieces sep n s ≠ [] := by
  induction s generalizing n with
  | nil => simp [pieces]
  | cons c rest ih =>
    rw [pieces]
    split
    · simp
    · simpa using ih (n.step c)

/-- An item is trimmed. -/
theorem trim_of_mem_items {sep : Char} {s item : List Char} (h : item ∈ items sep s) :
    Text.trim item = item := by
  simp only [items, List.mem_filter, List.mem_map] at h
  obtain ⟨⟨piece, _, rfl⟩, _⟩ := h
  exact Text.trim_trim piece

/-- An item is not empty. -/
theorem ne_nil_of_mem_items {sep : Char} {s item : List Char} (h : item ∈ items sep s) :
    item ≠ [] := by
  simpa [items] using (List.mem_filter.mp h).2

end SchemaLang
