import SchemaLang.Source.Token
import SchemaLang.Text.Line

/-!
# Significant lines

A line without tokens of its own, blank or a comment, has no say in what a source means. The others
keep their number in the source, counted from one.
-/

namespace SchemaLang

/-- A line that is blank or a comment. -/
def isSkipped (line : List Char) : Bool :=
  match Text.trimStart line with
  | [] => true
  | c :: _ => c == '#'

/-- A line of a source and its number. -/
structure SourceLine where
  number : Nat
  text : List Char
  deriving DecidableEq, Repr

namespace SourceLine

/-- The tokens of the line. -/
def tokens (line : SourceLine) : List Token :=
  Token.ofLine line.text

end SourceLine

/-- All lines of a source. -/
def numberedLines (source : String) : List SourceLine :=
  (Text.lines source.toList).zipIdx 1 |>.map fun (text, number) => { number, text }

/-- The lines of a source that are neither blank nor comments. -/
def significantLines (source : String) : List SourceLine :=
  (numberedLines source).filter fun line => !isSkipped line.text

theorem not_isSkipped_of_mem {source : String} {line : SourceLine}
    (h : line ∈ significantLines source) : isSkipped line.text = false := by
  simpa using (List.mem_filter.mp h).2

end SchemaLang
