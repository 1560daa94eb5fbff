/-!
# Nesting of brackets and quotes

A place in a text lies at some depth of brackets and inside a quote or not. Square and round
brackets count alike, a closer without an opener counts for nothing, and between two equal quotes
no bracket counts.
-/

namespace SchemaLang

/-- How many brackets are open, and which quote is. -/
structure Nesting where
  depth : Nat := 0
  quote : Option Char := none
  deriving DecidableEq, Repr

namespace Nesting

/-- A character that opens and closes a quoted stretch. -/
def isQuote (c : Char) : Bool := c == '"' || c == '\''

/-- A character that opens a bracket. -/
def isOpener (c : Char) : Bool := c == '[' || c == '('

/-- A character that closes a bracket. -/
def isCloser (c : Char) : Bool := c == ']' || c == ')'

/-- Outside all brackets and quotes. -/
def top : Nesting := {}

/-- Inside one bracket and no quote. -/
def enclosed : Nesting := { depth := 1 }

/-- Whether no bracket and no quote is open. -/
def isTop (n : Nesting) : Bool := n.depth == 0 && n.quote.isNone

/-- The nesting behind a character. -/
def step (n : Nesting) (c : Char) : Nesting :=
  match n.quote with
  | some q => if c = q then { n with quote := none } else n
  | none =>
    if isQuote c then { n with quote := some c }
    else if isOpener c then { n with depth := n.depth + 1 }
    else if isCloser c then { n with depth := n.depth - 1 }
    else n

/-- The nesting behind a character of a word, where quotes count inside brackets only. -/
def stepWord (n : Nesting) (c : Char) : Nesting :=
  if n.depth = 0 then (if isOpener c then enclosed else n) else n.step c

/-- The nesting behind a text. -/
def run (n : Nesting) (s : List Char) : Nesting := s.foldl step n

@[simp] theorem run_nil (n : Nesting) : n.run [] = n := rfl

@[simp] theorem run_cons (n : Nesting) (c : Char) (s : List Char) :
    n.run (c :: s) = (n.step c).run s := rfl

@[simp] theorem run_append (n : Nesting) (s t : List Char) :
    n.run (s ++ t) = (n.run s).run t :=
  List.foldl_append

theorem isTop_iff {n : Nesting} : n.isTop = true ↔ n = top := by
  cases n with
  | mk depth quote => cases quote <;> simp [isTop, top]

end Nesting

end SchemaLang
