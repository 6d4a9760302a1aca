import DriverHub.Dict
import DriverHub.Report.Basic

/-! TOML documents as trees. Every value remembers the bytes that it was written in. A table also
remembers how it came about, because that decides what may still be added to it. -/

namespace DriverHub

/-- How a table came about. -/
inductive TableOrigin where
  /-- Under a header of its own. -/
  | header
  /-- On the way to a table that has a header. -/
  | path
  /-- On the way to the last part of a dotted key. -/
  | dotted
  /-- Written in braces. -/
  | inline
deriving DecidableEq

/-- Whether a table was never written down itself. -/
def TableOrigin.isImplicit : TableOrigin → Bool
  | path | dotted => true
  | header | inline => false

inductive Toml where
  | str (text : String)
  | int (value : Int)
  | bool (value : Bool)
  | float
  | date
  | array (items : List (TextRange × Toml))
  /-- The tables under one doubled header. -/
  | tables (items : List (TextRange × Toml))
  | table (origin : TableOrigin) (members : List (String × TextRange × Toml))
deriving Inhabited

namespace Toml

/-- A table that may still be added to. -/
structure Table where
  origin : TableOrigin
  members : Dict String (TextRange × Toml) := []

def Table.toml (t : Table) : Toml := .table t.origin t.members

def table? : Toml → Option Table
  | .table origin members => some ⟨origin, members⟩
  | _ => none

/-- A name in a key, with the bytes that it was written in. -/
structure Key where
  name : String
  range : TextRange

namespace Table

/-- Changes the last of the tables under a doubled header. -/
def changeLast (f : Table → Option Table) : List (TextRange × Toml) → Option (List (TextRange × Toml))
  | [] => none
  | [(range, last)] => do return [(range, (← f (← last.table?)).toml)]
  | item :: rest => do return item :: (← changeLast f rest)

/-- Changes the table that a path leads to. Tables that are missing on the way are made; a dotted key
does not lead into a table that was written down, and nothing leads into one in braces. -/
def descend (dotted : Bool) (f : Table → Option Table) : List Key → Table → Option Table
  | [], t => f t
  | key :: path, t =>
    let set (range : TextRange) (value : Toml) : Table :=
      { t with members := Dict.insert key.name (range, value) t.members }
    match Dict.find? key.name t.members with
    | none => do
      let inner ← descend dotted f path ⟨if dotted then .dotted else .path, []⟩
      return set key.range inner.toml
    | some (range, .table origin members) =>
      if origin = .inline ∨ (dotted ∧ !origin.isImplicit) then none
      else do return set range (← descend dotted f path ⟨origin, members⟩).toml
    | some (range, .tables items) => do
      return set range (.tables (← changeLast (descend dotted f path) items))
    | some _ => none

/-- Sets a value under a key that may be dotted. A name is set only once, and dotted keys do not add to
a table on the way to a header. -/
def set (path : List Key) (key : Key) (range : TextRange) (value : Toml) : Table → Option Table :=
  descend true (fun t =>
    if (t.origin == .dotted) = path.isEmpty ∨ Dict.contains key.name t.members then none
    else some { t with members := Dict.insert key.name (range, value) t.members }) path

/-- Starts or reopens the table under a header, and fills it. -/
def openTable (path : List Key) (key : Key) (range : TextRange) (fill : Table → Option Table) :
    Table → Option Table :=
  descend false (fun t => do
    let start ← match Dict.find? key.name t.members with
      | none => some []
      | some (_, .table .path members) => some members
      | some _ => none
    let inner ← fill ⟨.header, start⟩
    return { t with members := Dict.insert key.name (range, inner.toml) t.members }) path

/-- Starts another table under a doubled header, and fills it. -/
def appendTable (path : List Key) (key : Key) (range : TextRange) (fill : Table → Option Table) :
    Table → Option Table :=
  descend false (fun t => do
    let start ← match Dict.find? key.name t.members with
      | none => some []
      | some (_, .tables items) => some items
      | some _ => none
    let inner ← fill ⟨.header, []⟩
    let all : Toml := .tables (start ++ [(range, inner.toml)])
    return { t with members := Dict.insert key.name (range, all) t.members }) path

end Table

end Toml

end DriverHub
