import SchemaLang.Files.Store
import SchemaLang.Output.Basic
import SchemaLang.Review.Violation
import SchemaLang.Source.Check

/-!
# Failures of a build

Why work on a source failed: what was under way, and the causes from the widest to the last. They
are worded in one line (`Failure.message`), or as a report with the causes set off below the context
and the violations of a schema above it (`Failure.report`).
-/

namespace SchemaLang

/-- Why work on a source failed. The paths are those that were being worked on. -/
inductive Failure where
  | configUnread (path : String) (fault : FileFault)
  | configMalformed (path : String)
  | sourceUnread (path : String) (fault : FileFault)
  | sourceRefused (path : String) (error : SourceError)
  | schemaInvalid (path : String) (violations : List Violation)
  | outputFailed (error : OutputError)
  | directoryNotMade (path : String) (fault : FileFault)
  | fileNotWritten (path : String) (fault : FileFault)
  deriving DecidableEq, Repr

namespace Failure

/-- What was under way. -/
def context : Failure → String
  | configUnread path _ => "reading config " ++ path
  | configMalformed path => "parsing config " ++ path
  | sourceUnread path _ => "reading " ++ path
  | sourceRefused path _ => "compiling " ++ path
  | schemaInvalid path violations =>
    Text.decimal violations.length ++ " validation error(s) in " ++ path
  | outputFailed error => error.trail.headD ""
  | directoryNotMade path _ => "creating " ++ path
  | fileNotWritten path _ => "writing " ++ path

/-- What went wrong, each cause with its own behind it. -/
def causes : Failure → List String
  | configUnread _ fault | sourceUnread _ fault => [fault.message]
  | configMalformed _ => ["not a configuration"]
  | sourceRefused _ error => [error.message]
  | schemaInvalid _ _ => []
  | outputFailed error => error.trail.tail
  | directoryNotMade _ fault | fileNotWritten _ fault => [fault.message]

/-- The failure in one line. -/
def message (e : Failure) : String := ": ".intercalate (e.context :: e.causes)

/-- A text with something in front of its first line and of each other one. -/
def indented (first others text : String) : String :=
  first ++ ("\n" ++ others).intercalate ((Text.splitAt '\n' text.toList).map String.ofList)

/-- The number of a cause, in five columns. -/
def numeral (n : Nat) : String :=
  String.ofList (List.leftpad 5 ' ' (Text.decimal n).toList) ++ ": "

/-- The causes under their heading, numbered if there are several. -/
def causesBlock : List String → String
  | [] => ""
  | [cause] => "\n\nCaused by:\n" ++ indented "    " "    " cause
  | causes =>
    "\n\nCaused by:\n" ++ "\n".intercalate (causes.mapIdx fun n cause =>
      indented (numeral n) "       " cause)

/-- The violations that were found on the way. -/
def violations : Failure → List Violation
  | schemaInvalid _ violations => violations
  | _ => []

/-- The failure on lines of its own. -/
def report (e : Failure) : String :=
  unlines (e.violations.map (·.render) ++ ["Error: " ++ e.context ++ causesBlock e.causes])

end Failure

end SchemaLang
