import SchemaLang.CommandLine.Invocation

/-!
# Outcomes

What an invocation does to the files around it and what it prints. The configuration is read before
anything else.
-/

namespace SchemaLang

/-- The configuration that is read where none is given. -/
def Config.standardPath : String := "shipdsl.toml"

namespace Build

variable {m : Type → Type} [Monad m] [FileStore m]

/-- The configuration at the path. -/
def loadConfig (path : String) : Build m Config := do
  let text ← attempt (.configUnread path) (FileStore.readText path)
  match Config.ofDocument? text with
  | some config => return config
  | none => throw (.configMalformed path)

/-- The configuration that is given, or else the one in the standard place, or else none. -/
def findConfig : Option String → Build m Config
  | some path => loadConfig path
  | none => do
    let present : Bool ← liftM (FileStore.isPresent Config.standardPath : m Bool)
    if present then loadConfig Config.standardPath
    else return {}

end Build

/-- The line about a source without violations. -/
def checkedLine (source : String) (s : Schema) : String :=
  source ++ ": " ++ Text.decimal s.models.length ++ " models, no errors\n"

variable {m : Type → Type} [Monad m] [FileStore m]

/-- Follows a command and gives what it prints. -/
def Command.run (config : Config) : Command → Build m String
  | .build source paths => do
    let document := paths.document.or config.documentPath
    let _ ← Build.perform source { paths with document } config.naming
    return ""
  | .check source => return checkedLine source (← Build.loadSchema source)
  | .document source output => do
    let schema ← Build.loadSchema source
    match output with
    | some path => do
      Build.writeFile { path, content := schema.toDocument }
      return ""
    | none => return schema.toDocument

/-- Follows an invocation and gives what it prints. -/
def Invocation.run (i : Invocation) : Build m String := do
  let config ← Build.findConfig i.config
  i.command.run config

/-- How a program ends. -/
structure Outcome where
  status : UInt8
  output : String := ""
  diagnostics : String := ""
  deriving DecidableEq, Repr

namespace Outcome

/-- What is said of arguments that ask for nothing sensible. -/
def usage : String :=
  unlines
    ["Usage: [--config <path>] build <dsl> <models> <routes> <templates> [--ir <path>]",
      "       [--config <path>] check <dsl>",
      "       [--config <path>] ir <dsl> [--output <path>]"]

/-- The outcome of work that is done or has failed. -/
def ofResult : Except Failure String → Outcome
  | .ok output => { status := 0, output }
  | .error failure => { status := 1, diagnostics := failure.report }

/-- The outcome of a command line. -/
def ofArguments (arguments : List String) : m Outcome :=
  match Invocation.ofArguments? arguments with
  | none => return { status := 2, diagnostics := usage }
  | some invocation => do return ofResult (← ExceptT.run invocation.run)

end Outcome

end SchemaLang
