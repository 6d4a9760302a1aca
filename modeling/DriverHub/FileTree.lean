import DriverHub.Dict
import DriverHub.Text.Split

/-! A tree of directories and files, and the operations on it that may fail. A place is the list of
names that leads to it from the top. Paths start at the top if they are absolute, and otherwise at the
directory that the tree is seen from. -/

namespace DriverHub

inductive FileFault where
  | notFound
  | notADirectory
  | isADirectory
deriving DecidableEq

def FileFault.text : FileFault → String
  | notFound => "No such file or directory (os error 2)"
  | notADirectory => "Not a directory (os error 20)"
  | isADirectory => "Is a directory (os error 21)"

structure FileTree where
  files : Dict (List String) String := []
  directories : List (List String) := []
  /-- The directory where relative paths start. -/
  home : List String := []

namespace FileTree

/-- Whether a place is a directory: on the way home, one that was made, or one that something lies
in. -/
def isDirectory (tree : FileTree) (place : List String) : Bool :=
  place.isPrefixOf tree.home || tree.directories.any (place.isPrefixOf ·) ||
    tree.files.any fun f => place ≠ f.1 && place.isPrefixOf f.1

def exists? (tree : FileTree) (place : List String) : Bool :=
  Dict.contains place tree.files || tree.isDirectory place

/-- The names in a path. -/
def names (path : String) : List String :=
  (Text.split '/' path.toList).map String.ofList

def isAbsolute (path : String) : Bool := path.toList.head? = some '/'

/-- The place where a path starts. -/
def start (tree : FileTree) (path : String) : List String :=
  if isAbsolute path then [] else tree.home

/-- Follows names from a place; every place on the way has to exist. -/
def walk (tree : FileTree) (place : List String) : List String → Except FileFault (List String)
  | [] => .ok place
  | name :: rest =>
    if !tree.isDirectory place then .error .notADirectory
    else if name = "" ∨ name = "." then walk tree place rest
    else if name = ".." then walk tree place.dropLast rest
    else if tree.exists? (place ++ [name]) then walk tree (place ++ [name]) rest
    else .error .notFound

/-- The place that a path leads to. -/
def resolve (tree : FileTree) (path : String) : Except FileFault (List String) :=
  if path.isEmpty then .error .notFound else tree.walk (tree.start path) (names path)

/-- What a file holds. -/
def contentAt (tree : FileTree) (place : List String) : Except FileFault String :=
  match Dict.find? place tree.files with
  | some content => .ok content
  | none => .error .isADirectory

def read (tree : FileTree) (path : String) : Except FileFault String :=
  match tree.resolve path with
  | .error fault => .error fault
  | .ok place => tree.contentAt place

/-- The place of a file that may be new: its directory has to exist. -/
def target (tree : FileTree) (path : String) : Except FileFault (List String) :=
  if path.isEmpty then .error .notFound
  else
    let parts := names path
    match tree.walk (tree.start path) parts.dropLast with
    | .error fault => .error fault
    | .ok place =>
      let name := parts.getLast?.getD ""
      if !tree.isDirectory place then .error .notADirectory
      else if name = "" ∨ name = "." ∨ name = ".." then .error .isADirectory
      else if tree.isDirectory (place ++ [name]) then .error .isADirectory
      else .ok (place ++ [name])

def write (tree : FileTree) (path content : String) : Except FileFault FileTree :=
  match tree.target path with
  | .error fault => .error fault
  | .ok place => .ok { tree with files := Dict.insert place content tree.files }

/-- Moves a file over another. -/
def rename (tree : FileTree) (source path : String) : Except FileFault FileTree :=
  match tree.target source, tree.target path with
  | .error fault, _ => .error fault
  | _, .error fault => .error fault
  | .ok old, .ok new =>
    match Dict.find? old tree.files with
    | none => .error .notFound
    | some content => .ok { tree with files := Dict.insert new content (Dict.erase old tree.files) }

/-- The places that a path passes, the last one being where it leads to if all of them exist. -/
def passes (tree : FileTree) (path : String) : List (List String) :=
  (names path).foldl (fun passed name => passed ++ [next (passed.getLast?.getD (tree.start path)) name]) []
where
  next (place : List String) (name : String) : List String :=
    if name = "" ∨ name = "." then place
    else if name = ".." then place.dropLast
    else place ++ [name]

/-- Puts a file at a path, with the directories that lead to it. -/
def place (tree : FileTree) (path content : String) : FileTree :=
  let passed := tree.passes path
  { tree with
    files := Dict.insert (passed.getLast?.getD []) content tree.files
    directories := passed.dropLast ++ tree.directories }

def makeDirectory (tree : FileTree) (path : String) : FileTree :=
  { tree with directories := tree.passes path ++ tree.directories }

/-- The place of a file as it is seen from home. -/
def pathTo (tree : FileTree) (place : List String) : String :=
  if tree.home.isPrefixOf place then String.intercalate "/" (place.drop tree.home.length)
  else "/" ++ String.intercalate "/" place

/-- The names of what lies at home, in order. -/
def namesAtHome (tree : FileTree) : List String :=
  (Dict.ofList ((tree.files.map (·.1) ++ tree.directories).filterMap fun place =>
    if tree.home.isPrefixOf place then
      place[tree.home.length]?.map fun name => (name, ())
    else none)).map (·.1)

end FileTree

end DriverHub
