import DriverHub.FileTree
import DriverHub.Log
import DriverHub.Records.Document

/-! Where records are kept: in memory alone, or in memory and in a file. A change of records in a
file first writes the whole new document beside the file and moves it into place; only then does the
table in memory change. -/

namespace DriverHub

inductive RecordError where
  | io (path : String) (fault : FileFault)
  | decode (path : String)
deriving DecidableEq

def RecordError.text : RecordError → String
  | io path fault => "Failed to access record file " ++ path ++ ": " ++ fault.text
  | decode path => "Failed to decode record file " ++ path

structure RecordStore where
  /-- The file, if the records are kept in one. -/
  file : Option String := none
  records : Records := {}

namespace RecordStore

/-- The name beside a file under which the next document is written: the extension of the file gives
way to `.json.tmp`. -/
def temporary (path : String) : String :=
  let parts := FileTree.names path
  let name := parts.getLast?.getD ""
  if name = "" ∨ name = "." ∨ name = ".." then path
  else
    let pieces := Text.split '.' name.toList
    let stem := if pieces.length ≤ 1 ∨ (pieces.length = 2 ∧ pieces.head? = some []) then name
      else String.intercalate "." (pieces.dropLast.map String.ofList)
    String.intercalate "/" (parts.dropLast ++ [stem ++ ".json.tmp"])

/-- Opens the records in a file; a file that does not exist holds none. -/
def open? (files : FileTree) (path : String) : Except RecordError RecordStore × List LogLine :=
  match files.read path with
  | .error .notFound =>
    (.ok { file := some path },
      [.info ("Record file " ++ path ++ " does not exist yet, starting empty")])
  | .error fault => (.error (.io path fault), [])
  | .ok text =>
    match RecordLists.ofDocument? text with
    | none => (.error (.decode path), [])
    | some lists =>
      (.ok { file := some path, records := lists.records },
        [.info ("Loaded " ++ Digits.natText lists.drivers.length ++ " driver(s) and " ++
          Digits.natText lists.devices.length ++ " device(s) from " ++ path)])

/-- Writes a document in place of a file. What was written before a fault stays. -/
def persist (files : FileTree) (path document : String) : Except FileFault Unit × FileTree :=
  match files.write (temporary path) document with
  | .error fault => (.error fault, files)
  | .ok files =>
    match files.rename (temporary path) path with
    | .error fault => (.error fault, files)
    | .ok files => (.ok (), files)

/-- Performs an operation; one that fails leaves the table as it was. -/
def perform (op : RecordOp) (store : RecordStore) (files : FileTree) :
    Except RecordError op.Result × RecordStore × FileTree :=
  let done := (.ok (op.result store.records), { store with records := op.apply store.records })
  match store.file with
  | none => (done.1, done.2, files)
  | some path =>
    if op.isRead then (done.1, done.2, files)
    else
      match persist files path (op.apply store.records).document with
      | (.error fault, files) => (.error (.io path fault), store, files)
      | (.ok (), files) => (done.1, done.2, files)

end RecordStore

end DriverHub
