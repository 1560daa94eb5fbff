import SchemaLang.Source.Nesting
import SchemaLang.Text.Blank

/-!
# Tokens of a line

A line is a row of words, bracket groups and braces. A word runs up to a blank or a brace and
takes with it the brackets attached to it, blanks and all; a bracket that starts a token makes a
group. Both splitters lose nothing (`takeWord_append`, `takeEnclosed_append`).
-/

namespace SchemaLang

/-- A token of a line. -/
inductive Token where
  | word (text : List Char)
  /-- A free-standing bracket group, without its brackets. -/
  | group (inner : List Char)
  | opening
  | closing
  deriving DecidableEq, Repr

namespace Token

/-- A character that ends a word, outside brackets. -/
def endsWord (c : Char) : Bool :=
  Text.isAsciiBlank c || c == '\x7b' || c == '\x7d'

/-- Splits a text behind the closer that leaves all brackets; without one, at its end. -/
def takeEnclosed : Nesting → List Char → List Char × List Char
  | _, [] => ([], [])
  | n, c :: rest =>
    if (n.step c).isTop then ([c], rest)
    else
      let (inner, left) := takeEnclosed (n.step c) rest
      (c :: inner, left)

/-- Splits a text in front of the first character that ends the word. -/
def takeWord : Nesting → List Char → List Char × List Char
  | _, [] => ([], [])
  | n, c :: rest =>
    if n.isTop && endsWord c then ([], c :: rest)
    else
      let (text, left) := takeWord (n.stepWord c) rest
      (c :: text, left)

theorem takeEnclosed_append (n : Nesting) (s : List Char) :
    (takeEnclosed n s).1 ++ (takeEnclosed n s).2 = s := by
  fun_induction takeEnclosed n s <;> simp_all

theorem takeWord_append (n : Nesting) (s : List Char) :
    (takeWord n s).1 ++ (takeWord n s).2 = s := by
  fun_induction takeWord n s <;> simp_all

theorem length_takeEnclosed_le (n : Nesting) (s : List Char) :
    (takeEnclosed n s).2.length ≤ s.length := by
  have h := congrArg List.length (takeEnclosed_append n s)
  rw [List.length_append] at h
  omega

theorem length_takeWord_le (n : Nesting) (s : List Char) :
    (takeWord n s).2.length ≤ s.length := by
  have h := congrArg List.length (takeWord_append n s)
  rw [List.length_append] at h
  omega

/-- A group without the square bracket that closes it. -/
def dropCloser (s : List Char) : List Char :=
  if s.getLast? = some ']' then s.dropLast else s

/-- The tokens of a line. -/
def ofLine : List Char → List Token
  | [] => []
  | c :: rest =>
    if Text.isAsciiBlank c then ofLine rest
    else if c = '\x7b' then opening :: ofLine rest
    else if c = '\x7d' then closing :: ofLine rest
    -- The bracket itself is read: what follows stands inside one bracket.
    else if c = '[' then
      group (dropCloser (takeEnclosed .enclosed rest).1) ::
        ofLine (takeEnclosed .enclosed rest).2
    else
      word (c :: (takeWord (Nesting.top.stepWord c) rest).1) ::
        ofLine (takeWord (Nesting.top.stepWord c) rest).2
termination_by s => s.length
decreasing_by
  · simp
  · simp
  · simp
  · have := length_takeEnclosed_le .enclosed rest
    simp only [List.length_cons]
    omega
  · have := length_takeWord_le (Nesting.top.stepWord c) rest
    simp only [List.length_cons]
    omega

/-- The word that starts a table. -/
def tableKeyword : List Char := "table".toList

/-- The name in the tokens of a line that starts a table. -/
def tableName? : List Token → Option (List Char)
  | word keyword :: word name :: _ => if keyword = tableKeyword then some name else none
  | _ => none

/-- The first token is the word that starts a table. -/
def startsTable : List Token → Bool
  | word keyword :: _ => keyword == tableKeyword
  | _ => false

example : ofLine "rate Decimal(10, 2) [not null] \x7d".toList =
    [word "rate".toList, word "Decimal(10, 2)".toList, group "not null".toList, closing] := by
  cbv

end Token

end SchemaLang
