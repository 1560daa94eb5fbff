import SchemaLang.Files.Path

/-!
# File trees

The directories and files of a machine as a value: what stands at each place, and the place that
relative paths start in. Reading, making a directory and writing say what went wrong when they
cannot be done, and then leave the tree as it is.

What stands at a place is all that the operations show: `entryAt?_put` tells it of a changed tree.
-/

namespace SchemaLang

/-- Why a path cannot be worked on. -/
inductive FileFault where
  | notFound
  | exists
  | notDirectory
  | isDirectory
  | nameTooLong
  /-- A path cannot hold the character of code zero. -/
  | nulInName
  /-- The file is not a text in UTF-8. -/
  | notText
  /-- A fault that only a real machine knows, in its words. -/
  | other (message : String)
  deriving DecidableEq, Repr

/-- The wording of the fault. -/
def FileFault.message : FileFault → String
  | notFound => "No such file or directory (os error 2)"
  | .exists => "File exists (os error 17)"
  | notDirectory => "Not a directory (os error 20)"
  | isDirectory => "Is a directory (os error 21)"
  | nameTooLong => "File name too long (os error 36)"
  | nulInName => "file name contained an unexpected NUL byte"
  | notText => "stream did not contain valid UTF-8"
  | other message => message

/-- A place in a file tree: the names on the way from the root. -/
abbrev Location := List String

/-- What stands at a place. -/
inductive FileEntry where
  | directory
  | file (bytes : ByteArray)

instance : DecidableEq FileEntry
  | .directory, .directory => isTrue rfl
  | .directory, .file _ => isFalse nofun
  | .file _, .directory => isFalse nofun
  | .file a, .file b =>
    decidable_of_iff (a.data = b.data) (ByteArray.ext_iff.symm.trans (FileEntry.file.injEq a b ▸ .rfl))

/-- The directories and files of a machine. -/
structure FileTree where
  /-- All that there is below the root. -/
  entries : List (Location × FileEntry) := []
  /-- The working directory. -/
  start : Location := []
  deriving DecidableEq

namespace FileTree

/-- What stands at a place; at the root, a directory. -/
def entryAt? (t : FileTree) (place : Location) : Option FileEntry :=
  if place = [] then some .directory else t.entries.lookup place

/-- The tree with something put at a place. -/
def put (t : FileTree) (place : Location) (entry : FileEntry) : FileTree :=
  { t with entries := (place, entry) :: t.entries.filter (·.1 != place) }

theorem lookup_filter_ne {place other : Location} (h : other ≠ place)
    (entries : List (Location × FileEntry)) :
    (entries.filter (·.1 != place)).lookup other = entries.lookup other := by
  induction entries with
  | nil => rfl
  | cons head rest ih =>
    obtain ⟨at', entry⟩ := head
    by_cases hp : at' = place
    · subst hp
      have : (other == at') = false := by simpa using h
      simp [List.lookup_cons, this, ih]
    · simp [hp, List.lookup_cons, ih]

/-- Something that is put at a place stands there; elsewhere nothing changes. -/
theorem entryAt?_put (t : FileTree) {place : Location} (hplace : place ≠ []) (entry : FileEntry)
    (other : Location) :
    (t.put place entry).entryAt? other =
      if other = place then some entry else t.entryAt? other := by
  by_cases h : other = place
  · subst h
    simp [entryAt?, put, hplace]
  · have : (other == place) = false := by simpa using h
    simp [entryAt?, put, h, List.lookup_cons, this, lookup_filter_ne h]

/-- The most bytes that a name can have. -/
def maxNameSize : Nat := 255

/-- The most bytes that a path can have. -/
def maxPathSize : Nat := 4095

/-- The place of a name in a directory. An empty name or `.` stands for the directory itself, `..`
    for the one above. -/
def step (place : Location) (name : String) : Except FileFault Location :=
  if name = "" ∨ name = "." then .ok place
  else if name = ".." then .ok place.dropLast
  else if maxNameSize < name.utf8ByteSize then .error .nameTooLong
  else .ok (place ++ [name])

/-- Walks along names that are all there, each of them in a directory. -/
def walk (t : FileTree) (place : Location) : List String → Except FileFault Location
  | [] => .ok place
  | name :: rest =>
    match t.entryAt? place with
    | some .directory => do
      let next ← step place name
      if (t.entryAt? next).isNone then .error .notFound else t.walk next rest
    | some (.file _) => .error .notDirectory
    | none => .error .notFound

/-- Walks along names to a directory. -/
def walkToDirectory (t : FileTree) (place : Location) (names : List String) :
    Except FileFault Location :=
  t.walk place (names ++ ["."])

/-- The place that a path starts in. -/
def startOf (t : FileTree) (path : String) : Location :=
  if Path.isAbsolute path then [] else t.start

/-- Refuses the texts that are no paths. -/
def checkPath (path : String) : Except FileFault Unit :=
  if '\x00' ∈ path.toList then .error .nulInName
  else if path = "" then .error .notFound
  else if maxPathSize < path.utf8ByteSize then .error .nameTooLong
  else .ok ()

/-- The place of a path at which something stands. -/
def locate (t : FileTree) (path : String) : Except FileFault Location := do
  checkPath path
  t.walk (t.startOf path) (Path.names path)

/-- What stands at a path. -/
def find? (t : FileTree) (path : String) : Option FileEntry :=
  match t.locate path with
  | .ok place => t.entryAt? place
  | .error _ => none

/-- A directory stands at the path. -/
def isDirectory (t : FileTree) (path : String) : Bool := t.find? path = some .directory

/-- The bytes of the file at a path. -/
def read (t : FileTree) (path : String) : Except FileFault ByteArray := do
  match t.entryAt? (← t.locate path) with
  | some (.file bytes) => .ok bytes
  | some .directory => .error .isDirectory
  | none => .error .notFound

/-- The names of a path without the slashes at its end, last one first. -/
def reversedNames (path : String) : List String :=
  (Path.names path).reverse.dropWhile (· = "")

/-- The tree with a directory made at a path. Slashes at its end do not count. -/
def makeDirectory (t : FileTree) (path : String) : Except FileFault FileTree := do
  checkPath path
  match reversedNames path with
  | [] => .error .exists
  | last :: above =>
    -- What is wrong on the way comes before what is wrong with the last name.
    let directory ← t.walkToDirectory (t.startOf path) above.reverse
    if last = "." ∨ last = ".." then .error .exists
    else
      let place ← step directory last
      if (t.entryAt? place).isSome then .error .exists else .ok (t.put place .directory)

/-- The tree with a file written at a path, in the place of the one that was there. A slash at the
    end asks for a directory. -/
def write (t : FileTree) (path : String) (bytes : ByteArray) : Except FileFault FileTree := do
  checkPath path
  match reversedNames path with
  | [] => .error .isDirectory
  | last :: above =>
    let directory ← t.walkToDirectory (t.startOf path) above.reverse
    if last = "." ∨ last = ".." ∨ path.toList.getLast? = some '/' then .error .isDirectory
    else
      let place ← step directory last
      if t.entryAt? place = some .directory then .error .isDirectory
      else .ok (t.put place (.file bytes))

end FileTree

end SchemaLang
