import SchemaLang.Build.Failure
import SchemaLang.Compile
import SchemaLang.Config
import SchemaLang.Document.Encode
import SchemaLang.Output.Application
import SchemaLang.Review.Report

/-!
# Building

From a source among files to the files of its application. Nothing is written before the schema has
been reviewed. The document of the schema is written first, if it is asked for, and then the files
of the application, in the order in which they are made; the first failure ends the build.
-/

namespace SchemaLang

/-- What a step of a build gives, or why it failed. -/
abbrev Build (m : Type → Type) : Type → Type := ExceptT Failure m

/-- Where the files of an application go. -/
structure BuildPaths where
  models : String
  routes : String
  templates : String
  /-- Where the document of the schema goes, if it is written. -/
  document : Option String := none
  deriving DecidableEq, Repr

namespace BuildPaths

/-- The directory for the files of a group. -/
def directory (p : BuildPaths) : OutputGroup → String
  | .models => p.models
  | .routes | .helpers => p.routes
  | .templates => p.templates

/-- The document of a schema as a file, if it is written. -/
def documentFile? (p : BuildPaths) (s : Schema) : Option OutputFile :=
  p.document.map fun path => { path, content := s.toDocument }

/-- The files of an application at the paths where they go, in the order in which they are made. -/
def files (p : BuildPaths) (a : Application) : List OutputFile :=
  OutputGroup.all.flatMap fun group =>
    (a.files group).map fun f => { f with path := Path.join (p.directory group) f.path }

end BuildPaths

/-- What a build made. -/
structure BuildSummary where
  models : Nat
  files : Nat
  deriving DecidableEq, Repr

namespace Build

variable {m : Type → Type} [Monad m] [FileStore m]

/-- Does something to files and says what its fault means. -/
def attempt {α : Type} (failure : FileFault → Failure) (operation : m (Except FileFault α)) :
    Build m α :=
  ExceptT.mk do return (← operation).mapError failure

/-- The schema of a source text that has been reviewed. -/
def reviewed (path text : String) : Except Failure Schema := do
  let schema ← (compile text).mapError (.sourceRefused path)
  if schema.isValid then .ok schema else .error (.schemaInvalid path schema.violations)

/-- The schema of the source at the path. -/
def loadSchema (path : String) : Build m Schema := do
  let text ← attempt (.sourceUnread path) (FileStore.readText path)
  MonadExcept.ofExcept (reviewed path text)

/-- Writes a file, with the directories that are missing above it. -/
def writeFile (f : OutputFile) : Build m Unit := do
  if let some directory := Path.parent? f.path then
    attempt (.directoryNotMade directory) (FileStore.ensureDirectories directory)
  attempt (.fileNotWritten f.path) (FileStore.writeText f.path f.content)

/-- Builds the application of the source at the path. -/
def perform (source : String) (paths : BuildPaths) (naming : TableNaming) :
    Build m BuildSummary := do
  let schema ← loadSchema source
  if let some document := paths.documentFile? schema then
    writeFile document
  -- The application is made as a whole before any of its files is written.
  let application ← MonadExcept.ofExcept
    ((Application.ofSchema schema naming).mapError .outputFailed)
  let files := paths.files application
  files.forM writeFile
  return { models := schema.models.length, files := files.length }

end Build

end SchemaLang
