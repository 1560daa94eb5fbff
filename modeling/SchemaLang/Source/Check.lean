import SchemaLang.Source.Line
import SchemaLang.Text.Numeral

/-!
# Sources that can be read at all

A source opens with a table and closes each brace it opens. Whatever else is wrong with it is left
to the review of the schema, which reports everything at once; these faults stop at the first.
-/

namespace SchemaLang

/-- Why a source cannot be read. -/
inductive SourceError where
  | empty
  | missingTable (line : Nat) (found : String)
  | unexpectedClose (line : Nat)
  | unbalancedBraces (opened closed : Nat)
  deriving DecidableEq, Repr

/-- The wording of the error. -/
def SourceError.message : SourceError → String
  | empty => "schema source is empty"
  | missingTable line found =>
    "line " ++ Text.decimal line ++ ": expected a `table` declaration, found `" ++ found ++ "`"
  | unexpectedClose line =>
    "line " ++ Text.decimal line ++ ": `\x7d` without a matching `\x7b`"
  | unbalancedBraces opened closed =>
    "unbalanced braces: " ++ Text.decimal opened ++ " opened, " ++ Text.decimal closed ++ " closed"

/-- A brace of a source. -/
inductive Brace where
  | opening
  | closing
  deriving DecidableEq, Repr

/-- The brace that a token is. -/
def Token.brace? : Token → Option Brace
  | .opening => some .opening
  | .closing => some .closing
  | _ => none

/-- The braces of some lines, each with the number of its line. -/
def bracesOf (lines : List SourceLine) : List (Nat × Brace) :=
  lines.flatMap fun line => (line.tokens.filterMap Token.brace?).map (line.number, ·)

/-- Checks that no brace closes more than is open and that all are closed at the end, having met
    `opened` and `closed` braces. -/
def checkBraces (opened closed : Nat) : List (Nat × Brace) → Except SourceError Unit
  | [] => if opened = closed then .ok () else .error (.unbalancedBraces opened closed)
  | (_, .opening) :: rest => checkBraces (opened + 1) closed rest
  | (line, .closing) :: rest =>
    if closed + 1 > opened then .error (.unexpectedClose line)
    else checkBraces opened (closed + 1) rest

/-- Checks that a source opens with a table and balances its braces. -/
def checkSource (source : String) : Except SourceError Unit :=
  match significantLines source with
  | [] => .error .empty
  | first :: rest =>
    if Token.startsTable first.tokens then checkBraces 0 0 (bracesOf (first :: rest))
    else .error (.missingTable first.number (String.ofList (Text.trim first.text)))

end SchemaLang
