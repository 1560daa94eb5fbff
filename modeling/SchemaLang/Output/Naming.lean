import SchemaLang.Document.Record
import SchemaLang.Text.Case

/-!
# Table naming

How the identifier of a model becomes the name of its table, which is also the name of its modules:
the identifier in lower or upper case between a leading and a trailing text.
-/

namespace SchemaLang

/-- The letter case of table names. -/
inductive LetterCase where
  | lower
  | upper
  deriving DecidableEq, Repr

namespace LetterCase

/-- The letter case as it is written in configurations. -/
def name : LetterCase → String
  | lower => "lower"
  | upper => "upper"

/-- Both letter cases. -/
def all : List LetterCase := [lower, upper]

/-- A text in the letter case. -/
def apply : LetterCase → String → String
  | lower => Text.lower
  | upper => Text.upper

end LetterCase

/-- A table naming policy. -/
structure TableNaming where
  letterCase : LetterCase := .lower
  leading : String := ""
  trailing : String := ""
  deriving DecidableEq, Repr

namespace TableNaming

/-- The name of the table of the model with an identifier. -/
def tableOf (naming : TableNaming) (id : String) : String :=
  naming.leading ++ naming.letterCase.apply id ++ naming.trailing

open Json in
/-- The policy that a JSON value describes. -/
def ofJson? (v : Json) : Option TableNaming := do
  let [letterCase, leading, trailing] ← v.asRecord? ["format", "prefix", "suffix"] | none
  some
    { letterCase := ← withDefault .lower (asName? LetterCase.name LetterCase.all) letterCase
      leading := ← withDefault "" asText? leading
      trailing := ← withDefault "" asText? trailing }

end TableNaming

end SchemaLang
