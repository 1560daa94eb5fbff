import SchemaLang.Files.Tree

/-!
# Working on files

The operations on files that a build needs, and those that can be made of them: reading a text,
making a directory with all that are missing above it. A file tree has them as changes of its state,
so a build can be followed step by step; a real machine has them as well.
-/

namespace SchemaLang

/-- What a build can do to the files around it. -/
class FileStore (m : Type → Type) where
  /-- Something stands at the path. -/
  isPresent : String → m Bool
  /-- A directory stands at the path. -/
  isDirectory : String → m Bool
  /-- The bytes of the file at the path. -/
  read : String → m (Except FileFault ByteArray)
  /-- Makes a directory at the path. -/
  makeDirectory : String → m (Except FileFault Unit)
  /-- Writes a file at the path, in the place of the one that was there. -/
  write : String → ByteArray → m (Except FileFault Unit)

/-- Keeps the changed tree of an operation that succeeded. -/
def FileTree.change (operation : FileTree → Except FileFault FileTree) :
    StateM FileTree (Except FileFault Unit) := fun t =>
  match operation t with
  | .ok changed => (.ok (), changed)
  | .error fault => (.error fault, t)

instance : FileStore (StateM FileTree) where
  isPresent path := fun t => ((t.find? path).isSome, t)
  isDirectory path := fun t => (t.isDirectory path, t)
  read path := fun t => (t.read path, t)
  makeDirectory path := FileTree.change (·.makeDirectory path)
  write path bytes := FileTree.change (·.write path bytes)

namespace FileStore

variable {m : Type → Type} [Monad m] [FileStore m]

/-- The text of the file at the path. -/
def readText (path : String) : m (Except FileFault String) := do
  match ← read path with
  | .error fault => return .error fault
  | .ok bytes =>
    match String.fromUTF8? bytes with
    | some text => return .ok text
    | none => return .error .notText

/-- Writes a text to the path. -/
def writeText (path text : String) : m (Except FileFault Unit) := write path text.toUTF8

/-- Makes a directory at the path, unless there is one. -/
def ensureDirectory (path : String) : m (Except FileFault Unit) := do
  match ← makeDirectory path with
  | .ok () => return .ok ()
  | .error fault => return if ← isDirectory path then .ok () else .error fault

/-- Makes the first of the directories, each of which is above those before it, and all that it
    needs of the others. The path that says nothing is there. -/
def ensureFirst : List String → m (Except FileFault Unit)
  | [] => return .ok ()
  | path :: above =>
    if path = "" then return .ok ()
    else do
      match ← ensureDirectory path with
      | .ok () => return .ok ()
      -- Only what is missing above can be mended.
      | .error .notFound =>
        match ← ensureFirst above with
        | .ok () => ensureDirectory path
        | .error fault => return .error fault
      | .error fault => return .error fault

/-- Makes a directory at the path and all that are missing above it. -/
def ensureDirectories (path : String) : m (Except FileFault Unit) :=
  ensureFirst (path :: Path.ancestors path)

end FileStore

end SchemaLang
