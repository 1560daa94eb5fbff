import SchemaLang.Text.Numeral
import SchemaLang.Text.PrintTable
import SchemaLang.Text.Case

/-!
# Quoted texts in messages

A text inside a message is shown between double quotes with everything that would not show, or
would end the quotes, written as an escape.
-/

namespace SchemaLang.Text

/-- One character of a quoted text. -/
def escapeChar (c : Char) : List Char :=
  if c = '"' then ['\\', '"']
  else if c = '\\' then ['\\', '\\']
  else if c = '\n' then ['\\', 'n']
  else if c = '\t' then ['\\', 't']
  else if c = '\r' then ['\\', 'r']
  else if c = Char.ofNat 0 then ['\\', '0']
  else if inRanges extendingMarkRanges c || inRanges unprintableRanges c then
    ['\\', 'u', '\x7b'] ++ (hexadecimal c.toNat).toList ++ ['\x7d']
  else [c]

/-- A text between double quotes. -/
def quoted (s : String) : String :=
  String.ofList ('"' :: (s.toList.flatMap escapeChar ++ ['"']))

example : quoted "\u3164\uff9e" = "\"\\u\x7b3164\x7d\uff9e\"" := by decide +kernel

example : quoted "a\"b\u0301'" = "\"a\\\"b\\u\x7b301\x7d'\"" := by decide +kernel

end SchemaLang.Text
