import OscRemote.Octets

/-!
# Files

The causes for which a file cannot be read or written, with the wording of the system, and `Folder`,
a directory of plain files from which paths are followed.  Main statement: what is written at a path
is read there.
-/

namespace OscRemote

/-- Why a file cannot be read or written. -/
inductive FileError where
  | notFound
  | notDirectory
  | isDirectory
  | nameTooLong
  | nulInPath
  | invalidText
  | other (text : String)
deriving DecidableEq, Repr

/-- The wording of a cause. -/
def FileError.message : FileError → String
  | .notFound => "No such file or directory (os error 2)"
  | .notDirectory => "Not a directory (os error 20)"
  | .isDirectory => "Is a directory (os error 21)"
  | .nameTooLong => "File name too long (os error 36)"
  | .nulInPath => "file name contained an unexpected NUL byte"
  | .invalidText => "stream did not contain valid UTF-8"
  | .other text => text

/-- The contents of files by path. -/
abbrev Files := String → Except FileError Octets

/-- The text of a file. -/
def Files.text (files : Files) (path : String) : Except FileError String := do
  let content ← files path
  match textOf? content with
  | some text => pure text
  | none => throw .invalidText

/-- A place that a path leads to: the names on the way from the working directory or, behind an
empty name, from the root.  Dots lead only upwards, from the working directory. -/
abbrev Spot := List String

namespace Spot

/-- The directories in the root of every system. -/
def systemDirectories : List String :=
  ["bin", "boot", "dev", "etc", "home", "lib", "mnt", "opt", "proc", "root", "run", "sbin", "srv",
    "sys", "tmp", "usr", "var"]

/-- Whether there is a directory here: the working directory and those around it, the root, and the
directories of the system. -/
def isDirectory (spot : Spot) : Bool :=
  spot.all (· == "..") ||
    match spot with
    | [""] => true
    | ["", name] => systemDirectories.contains name
    | _ => false

/-- The directory around a place; that around the root is the root itself. -/
def parent (spot : Spot) : Spot :=
  if spot.all (· == "..") then spot ++ [".."]
  else if spot = [""] then spot
  else spot.dropLast

end Spot

/-- A directory that holds plain files and nothing else, as the working directory.  The files are
listed by place, those beyond the directory too. -/
structure Folder where
  files : List (Spot × Octets) := []

namespace Folder

/-- A folder of files with these names. -/
def ofNames (files : List (String × Octets)) : Folder where
  files := files.map fun (name, content) => ([name], content)

/-- The length that a path stays below, in octets. -/
def maxPath : Nat := 4096

/-- The length up to which a name may go, in octets. -/
def maxName : Nat := 255

/-- Refuses what is no path at all. -/
def checkPath (path : String) : Except FileError Unit :=
  if path.toList.contains '\x00' then throw .nulInPath
  else if path.isEmpty then throw .notFound
  else if maxPath ≤ path.utf8ByteSize then throw .nameTooLong
  else pure ()

/-- Refuses a place that is not a directory. -/
def enter (folder : Folder) (spot : Spot) : Except FileError Unit :=
  if spot.isDirectory then pure ()
  else if (folder.files.lookup spot).isSome then throw .notDirectory
  else throw .notFound

/-- Follows names from a place.  All places on the way must be directories; the last may be
anything. -/
def follow (folder : Folder) (spot : Spot) : List String → Except FileError Spot
  | [] => pure spot
  | name :: names => do
    folder.enter spot
    if name = "" ∨ name = "." then folder.follow spot names
    else if name = ".." then folder.follow spot.parent names
    else if maxName < name.utf8ByteSize then throw .nameTooLong
    else folder.follow (spot ++ [name]) names

/-- The place from which a path is followed. -/
def start (path : String) : Spot :=
  if path.startsWith "/" then [""] else []

/-- Refuses the place of a directory. -/
def checkFile (spot : Spot) : Except FileError Unit :=
  if spot.isDirectory then throw .isDirectory else pure ()

/-- The contents of the file at a path. -/
def read (folder : Folder) : Files := fun path => do
  checkPath path
  let spot ← folder.follow (start path) (path.splitOn "/")
  checkFile spot
  match folder.files.lookup spot with
  | some content => pure content
  | none => throw .notFound

/-- Refuses a path that ends in a slash: it cannot be that of a file. -/
def checkEnd (folder : Folder) (path : String) : Except FileError Unit :=
  if path.endsWith "/" then do
    let names := ((path.splitOn "/").reverse.dropWhile (· == "")).reverse
    folder.enter (← folder.follow (start path) names.dropLast)
    throw .isDirectory
  else pure ()

/-- The folder with a file of these contents at a path. -/
def write (folder : Folder) (path : String) (content : Octets) : Except FileError Folder := do
  checkPath path
  folder.checkEnd path
  let spot ← folder.follow (start path) (path.splitOn "/")
  checkFile spot
  pure { files := (spot, content) :: folder.files.filter (·.1 != spot) }

/-- Only directories are passed on the way to a place, whatever the files are. -/
theorem follow_eq_ok {folder : Folder} (other : Folder) {spot last : Spot} {names : List String}
    (h : folder.follow spot names = .ok last) : other.follow spot names = .ok last := by
  induction names generalizing spot with
  | nil => simpa [follow] using h
  | cons name names ih =>
    by_cases hd : spot.isDirectory
    · simp only [follow, enter, hd, if_true, pure, Except.pure, bind, Except.bind] at h ⊢
      split at h
      · simp_all
      · split at h
        · simp_all
        · split at h <;> simp_all
    · simp only [follow, enter, hd, bind, Except.bind] at h
      split at h <;> simp_all
      split at * <;> simp_all

/-- What is written can be read. -/
theorem read_of_write {folder after : Folder} {path : String} {content : Octets}
    (h : folder.write path content = .ok after) : after.read path = .ok content := by
  simp only [write, bind, Except.bind] at h
  split at h
  · simp at h
  rename_i hpath
  split at h
  · simp at h
  split at h
  · simp at h
  rename_i spot hspot
  split at h
  · simp at h
  rename_i hfile
  simp only [pure, Except.pure, Except.ok.injEq] at h
  have := follow_eq_ok after hspot
  simp only [read, bind, Except.bind, hpath, this, hfile]
  simp [← h, pure, Except.pure]

end Folder

end OscRemote
