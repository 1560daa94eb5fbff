import SchemaLang.CommandLine.Outcome

/-!
# The program

The operations on the files of the machine, and the program that follows its arguments.
-/

namespace SchemaLang

/-- The code of an error is the given one, with either sign. -/
def hasCode (code n : UInt32) : Bool := code == n || code == 0 - n

/-- The fault behind an error of the machine. -/
def FileFault.ofMachine (e : IO.Error) : FileFault :=
  match e with
  | .noFileOrDirectory .. => .notFound
  | .alreadyExists .. => .exists
  | .inappropriateType _ code _ => if hasCode code 21 then .isDirectory else .notDirectory
  | .invalidArgument _ code _ => if hasCode code 36 then .nameTooLong else .other (toString e)
  | _ => .other (toString e)

/-- Does something at a path of the machine. -/
def onMachine {α : Type} (path : String) (operation : IO α) : IO (Except FileFault α) := do
  if '\x00' ∈ path.toList then return .error .nulInName
  match ← operation.toBaseIO with
  | .ok a => return .ok a
  | .error e => return .error (FileFault.ofMachine e)

instance : FileStore IO where
  isPresent path := do return path != "" && (← ((← IO.currentDir) / path).pathExists)
  isDirectory path := do return path != "" && (← ((← IO.currentDir) / path).isDir)
  read path := onMachine path (IO.FS.readBinFile path)
  makeDirectory path := onMachine path (IO.FS.createDir path)
  write path bytes := onMachine path (IO.FS.writeBinFile path bytes)

end SchemaLang

open SchemaLang in
/-- Follows the arguments and ends as they come out. -/
def main (arguments : List String) : IO UInt32 := do
  let outcome : Outcome ← Outcome.ofArguments arguments
  (← IO.getStdout).putStr outcome.output
  (← IO.getStderr).putStr outcome.diagnostics
  return outcome.status.toUInt32
