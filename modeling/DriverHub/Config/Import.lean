import DriverHub.Config.Reading
import DriverHub.Config.Settings
import DriverHub.FileTree

/-! Configuration files and those that they import. Imported files come before the file that imports
them, and each file comes once. -/

namespace DriverHub.Config

/-- A file with its place. -/
structure LoadedFile where
  place : List String
  file : ConfigFile

inductive LoadError where
  | unreadable (path : String) (fault : FileFault)
  | malformed (path : String)
  /-- A file that is to be read while its own imports are being read. -/
  | cycle (place : List String) (pending : List (List String))

def LoadError.text (tree : FileTree) : LoadError → String
  | unreadable path fault => "Failed to read '" ++ path ++ "': " ++ fault.text
  | malformed path => "Failed to parse '" ++ path ++ "'"
  | cycle place pending =>
    "Import cycle detected at '" ++ tree.pathTo place ++ "': involves " ++
      Digits.natText pending.length ++ " file(s)"

/-- The directory part of a path to a file. -/
def directoryOf (path : String) : String :=
  let parts := (FileTree.names path).dropLast
  match (parts.reverse.dropWhile fun part => part = "" ∨ part = ".").reverse, parts with
  | [], "" :: _ => "/"
  | [], "." :: _ => "."
  | [], _ => ""
  | kept, _ => String.intercalate "/" kept

/-- The path of an import, which starts at the directory of the importing file unless it is
absolute. -/
def importPath (importer path : String) : String :=
  let base := directoryOf importer
  if FileTree.isAbsolute path ∨ base = "" then path
  else if base = "/" then base ++ path
  else base ++ "/" ++ path

def ConfigFile.importPaths (f : ConfigFile) : List String := f.imports.map (importPath f.source.path)

/-- The paths that the file at a path imports; none, if there is no such file. -/
def importsAt (tree : FileTree) (path : String) : List String :=
  match tree.read path with
  | .error _ => []
  | .ok content => (Source.read? ⟨path, content⟩).elim [] (·.importPaths)

/-- The files that are not being read. -/
def unread (tree : FileTree) (pending : List (List String)) : Nat :=
  (tree.files.filter fun f => f.1 ∉ pending).length

theorem unread_lt {tree : FileTree} {pending : List (List String)} {place : List String}
    {content : String} (new : place ∉ pending) (known : Dict.find? place tree.files = some content) :
    unread tree (place :: pending) < unread tree pending := by
  have split : (tree.files.filter fun f => f.1 ∉ place :: pending) =
      (tree.files.filter fun f => f.1 ∉ pending).filter fun f => f.1 ≠ place := by
    rw [List.filter_filter]
    congr 1
    funext f
    simp [not_or]
  unfold unread
  rw [split, List.length_filter_lt_length_iff_exists]
  exact ⟨(place, content), by simp [Dict.mem_of_find? known, new], by simp⟩

mutual

/-- Adds the file at a path after those that it imports. A file that is `loaded` already is passed
over; one that is `pending` waits for its own imports. -/
def load (tree : FileTree) (pending : List (List String)) (loaded : List LoadedFile) (path : String) :
    Except LoadError (List LoadedFile) :=
  match tree.resolve path with
  | .error fault => .error (.unreadable path fault)
  | .ok place =>
    if place ∈ loaded.map (·.place) then .ok loaded
    else if _new : place ∈ pending then .error (.cycle place pending)
    else
      match _known : Dict.find? place tree.files with
      | none => .error (.unreadable path .isADirectory)
      | some content =>
        match Source.read? ⟨path, content⟩ with
        | none => .error (.malformed path)
        | some file =>
          match loadAll tree (place :: pending) loaded file.importPaths with
          | .error e => .error e
          | .ok loaded => .ok (loaded ++ [⟨place, file⟩])
termination_by (unread tree pending, 0)
decreasing_by exact Prod.Lex.left _ _ (unread_lt _new _known)

def loadAll (tree : FileTree) (pending : List (List String)) (loaded : List LoadedFile) :
    List String → Except LoadError (List LoadedFile)
  | [] => .ok loaded
  | path :: rest =>
    match load tree pending loaded path with
    | .error e => .error e
    | .ok loaded => loadAll tree pending loaded rest
termination_by paths => (unread tree pending, paths.length + 1)

end

/-- The files at some paths with all that they import. -/
def loadFiles (tree : FileTree) (paths : List String) : Except LoadError (List ConfigFile) :=
  (loadAll tree [] [] paths).map (·.map (·.file))

/-- Why there are no settings. -/
inductive Failure where
  | load (e : LoadError)
  | invalid (problems : List Problem)

def Failure.text (tree : FileTree) : Failure → String
  | load e => e.text tree
  | invalid problems => problemsText problems

/-- The settings in some files and all that they import, with the warnings. -/
def settingsOf (tree : FileTree) (paths : List String) :
    Except Failure (Settings × List Problem) :=
  match loadFiles tree paths with
  | .error e => .error (.load e)
  | .ok files => (merge files).settings.mapError .invalid

end DriverHub.Config
