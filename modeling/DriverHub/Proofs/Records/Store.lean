import DriverHub.Proofs.Records
import DriverHub.Records.Store

/-! Runs of operations on a store of records. Before each operation its files may have become any files
at all, so that every write and every move into place may fail. A store in a file then answers like a
store in memory that performs the operations that succeed, and those that fail leave no trace. -/

namespace DriverHub

namespace Records

/-- Saving singletons changes those of the two records, if they exist, and nothing else. -/
structure OnlySingletons (driver : DriverId) (json : Json) (device : Option (DeviceId × Json))
    (before after : Records) : Prop where
  drivers : ∀ id, Dict.find? id after.drivers = (Dict.find? id before.drivers).map fun record =>
    if driver = id then { record with singleton := some json } else record
  devices : ∀ id, Dict.find? id after.devices = (Dict.find? id before.devices).map fun record =>
    match device with
    | none => record
    | some (key, json) => if key = id then { record with singleton := some json } else record
  scripts : after.scripts = before.scripts

theorem onlySingletons_putSingletons (r : Records) (driver : DriverId) (json : Json)
    (device : Option (DeviceId × Json)) :
    OnlySingletons driver json device r (r.putSingletons driver json device) := by
  refine ⟨fun id => ?_, fun id => ?_, rfl⟩
  · rw [find?_drivers_putSingletons]
    split
    · rfl
    · exact Option.map_id'.symm
  · cases device with
    | none => exact Option.map_id'.symm
    | some device =>
      obtain ⟨key, deviceJson⟩ := device
      rw [find?_devices_putSingletons]
      dsimp only
      split
      · rfl
      · exact Option.map_id'.symm

end Records

namespace RecordLists

theorem keyed_records (l : RecordLists) : l.records.Keyed where
  drivers := Dict.sorted_ofList _
  devices := Dict.sorted_ofList _
  scripts := Dict.sorted_ofList _
  driverId id record h := by
    obtain ⟨listed, -, heq⟩ := List.mem_map.1 (Dict.mem_of_mem_ofList h)
    cases heq
    rfl
  deviceId id record h := by
    obtain ⟨listed, -, heq⟩ := List.mem_map.1 (Dict.mem_of_mem_ofList h)
    cases heq
    rfl
  scriptId id record h := by
    obtain ⟨listed, -, heq⟩ := List.mem_map.1 (Dict.mem_of_mem_ofList h)
    cases heq
    rfl

end RecordLists

namespace RecordStore

/-! ### One operation -/

/-- A document cannot be written beside its file, or not be moved into its place. -/
def Refused (files : FileTree) (path document : String) (fault : FileFault) : Prop :=
  files.write (temporary path) document = .error fault ∨
    ∃ written, files.write (temporary path) document = .ok written ∧
      written.rename (temporary path) path = .error fault

theorem persist_eq_error_iff {files : FileTree} {path document : String} {fault : FileFault} :
    (persist files path document).1 = .error fault ↔ Refused files path document fault := by
  unfold persist Refused
  cases hwrite : files.write (temporary path) document with
  | error found => simp
  | ok written => cases hrename : written.rename (temporary path) path <;> simp [hrename]

section

variable {store : RecordStore} {op : RecordOp} {files : FileTree} {path : String}

theorem perform_eq_error_iff (hfile : store.file = some path) {e : RecordError} :
    (store.perform op files).1 = .error e ↔ op.isRead = false ∧
      ∃ fault, Refused files path (op.apply store.records).document fault ∧ e = .io path fault := by
  unfold perform
  rw [hfile]
  dsimp only
  cases hread : op.isRead with
  | true => exact iff_of_false nofun nofun
  | false =>
    simp only [← persist_eq_error_iff]
    cases hpersist : persist files path (op.apply store.records).document with
    | mk outcome left =>
      cases outcome with
      | error fault => simp [eq_comm]
      | ok => simp

theorem perform_cases (op : RecordOp) (store : RecordStore) (files : FileTree) :
    ((store.perform op files).1 = .ok (op.result store.records) ∧
      (store.perform op files).2.1.records = op.apply store.records) ∨
    ∃ e, (store.perform op files).1 = .error e ∧ (store.perform op files).2.1 = store := by
  unfold perform
  split
  · exact .inl ⟨rfl, rfl⟩
  · split
    · exact .inl ⟨rfl, rfl⟩
    · split
      · exact .inr ⟨_, rfl, rfl⟩
      · exact .inl ⟨rfl, rfl⟩

@[simp] theorem file_perform (store : RecordStore) (op : RecordOp) (files : FileTree) :
    (store.perform op files).2.1.file = store.file := by
  unfold perform
  split
  · rfl
  · split
    · rfl
    · split <;> rfl

theorem perform_of_error {e : RecordError} (h : (store.perform op files).1 = .error e) :
    (store.perform op files).2.1 = store := by
  rcases perform_cases op store files with ⟨hok, -⟩ | ⟨-, -, hsame⟩
  · rw [h] at hok
    cases hok
  · exact hsame

theorem perform_of_ok {answer : op.Result} (h : (store.perform op files).1 = .ok answer) :
    answer = op.result store.records ∧
      (store.perform op files).2.1 = { store with records := op.apply store.records } := by
  rcases perform_cases op store files with ⟨hok, hrecords⟩ | ⟨e, herror, -⟩
  · rw [h] at hok
    refine ⟨Except.ok.inj hok, ?_⟩
    rw [← hrecords, ← file_perform store op files]
  · rw [h] at herror
    cases herror

theorem perform_memory (hfile : store.file = none) : store.perform op files =
    (.ok (op.result store.records), { store with records := op.apply store.records }, files) := by
  unfold perform
  rw [hfile]

/-! ### Runs -/

/-- An operation with what came of it. -/
structure Reply where
  op : RecordOp
  answer : Except RecordError op.Result

namespace Reply

/-- The operation succeeded. -/
def isOk (reply : Reply) : Bool := reply.answer.toBool

end Reply

/-- What comes of operations, each with the files as it finds them. -/
def replies : RecordStore → List (RecordOp × FileTree) → List Reply
  | _, [] => []
  | store, (op, files) :: rest =>
    ⟨op, (store.perform op files).1⟩ :: replies (store.perform op files).2.1 rest

/-- The store that operations leave behind. -/
def after : RecordStore → List (RecordOp × FileTree) → RecordStore
  | store, [] => store
  | store, (op, files) :: rest => after (store.perform op files).2.1 rest

/-- The operations that succeed. -/
def succeeding : RecordStore → List (RecordOp × FileTree) → List (RecordOp × FileTree)
  | _, [] => []
  | store, (op, files) :: rest =>
    let later := succeeding (store.perform op files).2.1 rest
    if (store.perform op files).1.toBool then (op, files) :: later else later

/-- A store in memory alone. -/
def memory (records : Records) : RecordStore := { records }

theorem after_append (store : RecordStore) (first second : List (RecordOp × FileTree)) :
    store.after (first ++ second) = (store.after first).after second := by
  induction first generalizing store with
  | nil => rfl
  | cons turn rest ih => exact ih _

theorem replies_append (store : RecordStore) (first second : List (RecordOp × FileTree)) :
    store.replies (first ++ second) = store.replies first ++ (store.after first).replies second := by
  induction first generalizing store with
  | nil => rfl
  | cons turn rest ih => exact congrArg (_ :: ·) (ih _)

@[simp] theorem file_after (store : RecordStore) (turns : List (RecordOp × FileTree)) :
    (store.after turns).file = store.file := by
  induction turns generalizing store with
  | nil => rfl
  | cons turn rest ih =>
    obtain ⟨op, files⟩ := turn
    exact (ih _).trans (file_perform store op files)

theorem keyed_after (h : store.records.Keyed) (turns : List (RecordOp × FileTree)) :
    (store.after turns).records.Keyed := by
  induction turns generalizing store with
  | nil => exact h
  | cons turn rest ih =>
    obtain ⟨op, files⟩ := turn
    refine ih ?_
    rcases perform_cases op store files with ⟨-, hrecords⟩ | ⟨e, -, hsame⟩
    · rw [hrecords]
      exact h.apply op
    · rw [hsame]
      exact h

variable {turns rest : List (RecordOp × FileTree)}

theorem replies_of_error {e : RecordError} (h : (store.perform op files).1 = .error e) :
    store.replies ((op, files) :: rest) = ⟨op, .error e⟩ :: store.replies rest := by
  rw [replies, h, perform_of_error h]

theorem after_of_error {e : RecordError} (h : (store.perform op files).1 = .error e) :
    store.after ((op, files) :: rest) = store.after rest := by
  rw [after, perform_of_error h]

theorem succeeding_of_error {e : RecordError} (h : (store.perform op files).1 = .error e) :
    store.succeeding ((op, files) :: rest) = store.succeeding rest := by
  rw [succeeding, h, perform_of_error h]
  rfl

theorem succeeding_of_ok {answer : op.Result} (h : (store.perform op files).1 = .ok answer) :
    store.succeeding ((op, files) :: rest) =
      (op, files) :: (store.perform op files).2.1.succeeding rest := by
  rw [succeeding, h]
  rfl

/-- A store in memory that performs what succeeds on a file answers the same, and holds the same. -/
theorem memory_agrees (store : RecordStore) (turns : List (RecordOp × FileTree)) :
    (memory store.records).replies (store.succeeding turns) = (store.replies turns).filter Reply.isOk ∧
      ((memory store.records).after (store.succeeding turns)).records = (store.after turns).records := by
  induction turns generalizing store with
  | nil => exact ⟨rfl, rfl⟩
  | cons turn rest ih =>
    obtain ⟨op, files⟩ := turn
    cases hanswer : (store.perform op files).1 with
    | error e =>
      rw [succeeding_of_error hanswer, replies_of_error hanswer, after_of_error hanswer]
      exact ih store
    | ok answer =>
      obtain ⟨rfl, hnext⟩ := perform_of_ok hanswer
      obtain ⟨hreplies, hafter⟩ := ih (store.perform op files).2.1
      rw [hnext] at hreplies hafter
      rw [succeeding_of_ok hanswer, replies, after, replies, after, hanswer, hnext,
        perform_memory (rfl : (memory store.records).file = none), List.filter_cons_of_pos rfl, ← hreplies]
      exact ⟨rfl, hafter⟩

/-- What is opened is kept in that file: nothing, or what a document lists. -/
theorem open?_eq_ok {tree : FileTree} (h : (open? tree path).1 = .ok store) :
    store.file = some path ∧ (store.records = {} ∨
      ∃ text lists, tree.read path = .ok text ∧ RecordLists.ofDocument? text = some lists ∧
        store.records = lists.records) := by
  unfold open? at h
  cases hread : tree.read path with
  | error fault =>
    rw [hread] at h
    cases fault with
    | notFound =>
      cases h
      exact ⟨rfl, .inl rfl⟩
    | notADirectory | isADirectory => cases h
  | ok text =>
    simp only [hread] at h
    cases hlists : RecordLists.ofDocument? text with
    | none =>
      rw [hlists] at h
      cases h
    | some lists =>
      rw [hlists] at h
      cases h
      exact ⟨rfl, .inr ⟨text, lists, rfl, hlists, rfl⟩⟩

theorem keyed_of_open? {tree : FileTree} (h : (open? tree path).1 = .ok store) :
    store.records.Keyed := by
  obtain ⟨-, hempty | ⟨text, lists, -, -, hlists⟩⟩ := open?_eq_ok h
  · rw [hempty]
    exact Records.keyed_empty
  · rw [hlists]
    exact lists.keyed_records

/-- What becomes of runs on an opened file: which operations fail, and with what error; that those leave
no trace; that the others answer as in memory; that records stay under their own identities; and what
saving singletons changes. -/
theorem file_refines_memory {tree : FileTree} {path : String} (h : (open? tree path).1 = .ok store)
    (turns : List (RecordOp × FileTree)) :
    (∀ op files, (∃ e, ((store.after turns).perform op files).1 = .error e) ↔ op.isRead = false ∧
        ∃ fault, Refused files path (op.apply (store.after turns).records).document fault) ∧
      (∀ op files fault rest, op.isRead = false →
        Refused files path (op.apply (store.after turns).records).document fault →
        ∃ later, store.replies (turns ++ (op, files) :: rest) =
            store.replies turns ++ ⟨op, .error (.io path fault)⟩ :: later ∧
          store.replies (turns ++ rest) = store.replies turns ++ later) ∧
      (memory store.records).replies (store.succeeding turns) =
        (store.replies turns).filter Reply.isOk ∧
      ((memory store.records).after (store.succeeding turns)).records = (store.after turns).records ∧
      (store.after turns).records.Keyed ∧
      ∀ driver json device files,
        ((store.after turns).perform (.putSingletons driver json device) files).1 = .ok () →
        Records.OnlySingletons driver json device (store.after turns).records
          (store.after (turns ++ [(.putSingletons driver json device, files)])).records := by
  have hfile : (store.after turns).file = some path := (file_after store turns).trans (open?_eq_ok h).1
  obtain ⟨hreplies, hafter⟩ := memory_agrees store turns
  refine ⟨fun op files => ?_, fun op files fault rest hop hrefused => ?_, hreplies, hafter,
    keyed_after (keyed_of_open? h) turns, fun driver json device files hok => ?_⟩
  · simp only [perform_eq_error_iff hfile]
    constructor
    · rintro ⟨-, hop, fault, hrefused, -⟩
      exact ⟨hop, fault, hrefused⟩
    · rintro ⟨hop, fault, hrefused⟩
      exact ⟨_, hop, fault, hrefused, rfl⟩
  · have herror := (perform_eq_error_iff hfile).2 ⟨hop, fault, hrefused, rfl⟩
    refine ⟨(store.after turns).replies rest, ?_, replies_append store turns rest⟩
    rw [replies_append, replies_of_error herror]
  · rw [after_append, after, after, (perform_of_ok hok).2]
    exact Records.onlySingletons_putSingletons _ driver json device

end

/-! ### A lamp whose file is in the way -/

namespace Lamp

def record : DriverRecord :=
  { id := ⟨"acme", "lamp"⟩, name := "Lamp", version := ⟨1, 0, 0⟩, source := "lamp" }

def store : RecordStore := { file := some "records.json" }

def clear : FileTree := {}

/-- Files among which nothing can be written beside the records. -/
def crowded : FileTree := { directories := [["records.json.tmp"]] }

/-- Files among which nothing can take the place of the records. -/
def blocked : FileTree := { directories := [["records.json"]] }

theorem refused_crowded (document : String) : Refused crowded "records.json" document .isADirectory :=
  .inl rfl

theorem refused_blocked (document : String) : Refused blocked "records.json" document .isADirectory :=
  .inr ⟨_, rfl, rfl⟩

/-- The lamp is put; it cannot be deleted for want of a place beside the file. -/
def turns : List (RecordOp × FileTree) := [(.putDriver record, clear), (.deleteDriver record.id, crowded)]

/-- Saving a singleton that cannot be moved into place is as if it had not been tried. -/
theorem lamp_file_refines_memory :
    (open? clear "records.json").1 = .ok store ∧
      store.replies turns =
        [⟨.putDriver record, .ok ()⟩, ⟨.deleteDriver record.id, .error (.io "records.json" .isADirectory)⟩] ∧
      (∃ e, ((store.after turns).perform (.deleteDriver record.id) crowded).1 = .error e) ∧
      (∃ later, store.replies (turns ++ [(.putSingletons record.id (.bool true) none, blocked),
            (.driver record.id, clear)]) = store.replies turns ++
            ⟨.putSingletons record.id (.bool true) none, .error (.io "records.json" .isADirectory)⟩ :: later ∧
          store.replies (turns ++ [(.driver record.id, clear)]) = store.replies turns ++ later) ∧
      (memory {}).replies [(.putDriver record, clear)] = [⟨.putDriver record, .ok ()⟩] ∧
      Records.OnlySingletons record.id (.bool true) none (store.after turns).records
        (store.after (turns ++ [(.putSingletons record.id (.bool true) none, clear)])).records := by
  obtain ⟨hfails, htrace, hmemory, -, -, hsingletons⟩ := file_refines_memory (rfl : (open? clear "records.json").1 = .ok store) turns
  refine ⟨rfl, rfl, (hfails _ _).2 ⟨rfl, _, refused_crowded _⟩, ?_, hmemory, ?_⟩
  · exact htrace _ _ _ [(.driver record.id, clear)] rfl (refused_blocked _)
  · exact hsingletons record.id (.bool true) none clear rfl

end Lamp

end RecordStore

end DriverHub
