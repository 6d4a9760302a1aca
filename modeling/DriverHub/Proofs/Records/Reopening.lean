import DriverHub.Proofs.Records.Document
import DriverHub.Proofs.Records.Persistence
import DriverHub.Proofs.Records.Store

/-! Opening a file of records again. The last change that succeeded left the whole table there, and it
is given back as it was, except that a saved singleton that is null is lost. -/

namespace DriverHub

/-! ### Singletons in tables -/

theorem readSingleton?_eq_some {saved : Option Json} {j : Json} (h : readSingleton? saved = some j) :
    j.Ordered ∧ j ≠ .null := by
  cases saved with
  | none => cases h
  | some written =>
    cases written with
    | null => cases h
    | bool | int | float | str | arr | obj =>
      obtain rfl := Option.some.inj h
      exact ⟨Json.ordered_canonical _, nofun⟩

theorem DriverRecord.singleton_of_ofJson? {j : Json} {r : DriverRecord} (h : ofJson? j = some r) :
    ∃ saved, r.singleton = readSingleton? saved := by
  unfold ofJson? at h
  obtain ⟨fields, -, h⟩ := Option.bind_eq_some_iff.1 h
  split at h
  · simp only [Option.bind_eq_bind, Option.bind_eq_some_iff, Option.pure_def, Option.some.injEq] at h
    obtain ⟨_, _, _, _, _, _, _, _, _, _, _, _, _, _, _, _, _, _, rfl⟩ := h
    exact ⟨_, rfl⟩
  · cases h

theorem DeviceRecord.singleton_of_ofJson? {j : Json} {r : DeviceRecord} (h : ofJson? j = some r) :
    ∃ saved, r.singleton = readSingleton? saved := by
  unfold ofJson? at h
  obtain ⟨fields, -, h⟩ := Option.bind_eq_some_iff.1 h
  split at h
  · simp only [Option.bind_eq_bind, Option.bind_eq_some_iff, Option.pure_def, Option.some.injEq] at h
    obtain ⟨_, _, _, _, _, _, _, _, _, _, _, _, _, _, _, _, rfl⟩ := h
    exact ⟨_, rfl⟩
  · cases h

theorem exists_of_mem_mapM {α β : Type} {read : α → Option β} {written : List α} {items : List β}
    (h : written.mapM read = some items) : ∀ b ∈ items, ∃ a, read a = some b := by
  induction written generalizing items with
  | nil =>
    cases h
    nofun
  | cons a rest ih =>
    rw [List.mapM_cons] at h
    simp only [Option.bind_eq_bind, Option.bind_eq_some_iff, Option.pure_def, Option.some.injEq] at h
    obtain ⟨first, hfirst, others, hothers, rfl⟩ := h
    intro b hb
    rcases List.mem_cons.1 hb with rfl | hb
    · exact ⟨a, hfirst⟩
    · exact ih hothers b hb

theorem RecordLists.exists_of_mem_listOr? {α : Type} {read : Json → Option α} {j : Option Json}
    {items : List α} (h : listOr? read j = some items) : ∀ a ∈ items, ∃ item, read item = some a := by
  cases j with
  | none =>
    cases h
    nofun
  | some j =>
    obtain ⟨written, -, h⟩ := Option.bind_eq_some_iff.1 h
    exact exists_of_mem_mapM h

namespace Records

variable {r : Records} {P Q : Json → Prop}

theorem EachSingleton.imp (h : r.EachSingleton P) (himp : ∀ j, P j → Q j) : r.EachSingleton Q :=
  ⟨fun id record j hmem hj => himp j (h.driver id record j hmem hj),
    fun id record j hmem hj => himp j (h.device id record j hmem hj)⟩

/-- What is read from a document is in order and not null. -/
theorem eachSingleton_of_ofDocument? {text : String} {l : RecordLists}
    (h : RecordLists.ofDocument? text = some l) :
    l.records.EachSingleton fun j => j.Ordered ∧ j ≠ .null := by
  obtain ⟨j, -, h⟩ := Option.bind_eq_some_iff.1 h
  unfold RecordLists.ofJson? at h
  obtain ⟨fields, -, h⟩ := Option.bind_eq_some_iff.1 h
  split at h
  · simp only [Option.bind_eq_bind, Option.bind_eq_some_iff, Option.pure_def, Option.some.injEq] at h
    obtain ⟨drivers, hdrivers, devices, hdevices, scripts, -, rfl⟩ := h
    refine ⟨fun id record j hmem hj => ?_, fun id record j hmem hj => ?_⟩
    · obtain ⟨listed, hlisted, heq⟩ := List.mem_map.1 (Dict.mem_of_mem_ofList hmem)
      cases heq
      obtain ⟨item, hitem⟩ := RecordLists.exists_of_mem_listOr? hdrivers record hlisted
      obtain ⟨saved, hsaved⟩ := DriverRecord.singleton_of_ofJson? hitem
      exact readSingleton?_eq_some (hsaved ▸ hj)
    · obtain ⟨listed, hlisted, heq⟩ := List.mem_map.1 (Dict.mem_of_mem_ofList hmem)
      cases heq
      obtain ⟨item, hitem⟩ := RecordLists.exists_of_mem_listOr? hdevices record hlisted
      obtain ⟨saved, hsaved⟩ := DeviceRecord.singleton_of_ofJson? hitem
      exact readSingleton?_eq_some (hsaved ▸ hj)
  · cases h

end Records

/-- The singletons that an operation saves. -/
def RecordOp.saved : RecordOp → List Json
  | putDriver record => record.singleton.toList
  | putDevice record => record.singleton.toList
  | putSingletons _ json other => json :: (other.map (·.2)).toList
  | _ => []

namespace Records

variable {r : Records} {P : Json → Prop}

/-- Tables hold what operations saved. -/
theorem EachSingleton.apply (h : r.EachSingleton P) {op : RecordOp} (hop : ∀ j ∈ op.saved, P j) :
    (op.apply r).EachSingleton P := by
  cases op with
  | driver | drivers | device | devices | script => exact h
  | putScript record => exact ⟨h.driver, h.device⟩
  | putDriver record =>
    refine ⟨fun id other j hmem hj => ?_, h.device⟩
    rcases Dict.mem_insert hmem with heq | hmem
    · cases heq
      exact hop j (by simp [RecordOp.saved, hj])
    · exact h.driver id other j hmem hj
  | putDevice record =>
    refine ⟨h.driver, fun id other j hmem hj => ?_⟩
    rcases Dict.mem_insert hmem with heq | hmem
    · cases heq
      exact hop j (by simp [RecordOp.saved, hj])
    · exact h.device id other j hmem hj
  | deleteDriver id =>
    exact ⟨fun id other j hmem => h.driver id other j (Dict.mem_of_mem_erase hmem), h.device⟩
  | deleteDevice id =>
    exact ⟨h.driver, fun id other j hmem => h.device id other j (Dict.mem_of_mem_erase hmem)⟩
  | putSingletons driver json device =>
    refine ⟨fun id other j hmem hj => ?_, ?_⟩
    · rw [RecordOp.apply, drivers_putSingletons] at hmem
      obtain ⟨old, hold, rfl | rfl⟩ := Dict.mem_of_mem_modify hmem
      · exact h.driver id _ j hold hj
      · cases hj
        exact hop json List.mem_cons_self
    · cases device with
      | none => exact h.device
      | some device =>
        obtain ⟨key, deviceJson⟩ := device
        intro id other j hmem hj
        rw [RecordOp.apply, devices_putSingletons_some] at hmem
        obtain ⟨old, hold, rfl | rfl⟩ := Dict.mem_of_mem_modify hmem
        · exact h.device id _ j hold hj
        · cases hj
          exact hop deviceJson (by simp [RecordOp.saved])

end Records

namespace RecordStore

section

variable {store : RecordStore} {P : Json → Prop}

theorem eachSingleton_after (h : store.records.EachSingleton P) {turns : List (RecordOp × FileTree)}
    (hturns : ∀ turn ∈ turns, ∀ j ∈ turn.1.saved, P j) : (store.after turns).records.EachSingleton P := by
  induction turns generalizing store with
  | nil => exact h
  | cons turn rest ih =>
    obtain ⟨op, files⟩ := turn
    refine ih ?_ fun turn hturn => hturns turn (List.mem_cons_of_mem _ hturn)
    rcases perform_cases op store files with ⟨-, hrecords⟩ | ⟨e, -, hsame⟩
    · rw [hrecords]
      exact h.apply (hturns _ List.mem_cons_self)
    · rw [hsame]
      exact h

theorem eachSingleton_of_open? {tree : FileTree} {path : String} (h : (open? tree path).1 = .ok store) :
    store.records.EachSingleton fun j => j.Ordered ∧ j ≠ .null := by
  obtain ⟨-, hempty | ⟨text, lists, -, hdocument, hlists⟩⟩ := open?_eq_ok h
  · rw [hempty]
    exact ⟨nofun, nofun⟩
  · rw [hlists]
    exact Records.eachSingleton_of_ofDocument? hdocument

theorem after_of_idle {turns : List (RecordOp × FileTree)}
    (h : ∀ reply ∈ store.replies turns, reply.op.isRead = true ∨ reply.isOk = false) :
    (store.after turns).records = store.records := by
  induction turns generalizing store with
  | nil => rfl
  | cons turn rest ih =>
    obtain ⟨op, files⟩ := turn
    have hrest := ih fun reply hreply => h reply (List.mem_cons_of_mem _ hreply)
    refine hrest.trans ?_
    rcases perform_cases op store files with ⟨hok, hrecords⟩ | ⟨e, -, hsame⟩
    · rw [hrecords]
      rcases h _ List.mem_cons_self with hread | hfailed
      · exact Records.apply_of_isRead hread
      · dsimp only [Reply.isOk] at hfailed
        rw [hok] at hfailed
        cases hfailed
    · rw [hsame]

theorem read_of_perform {path : String} {op : RecordOp} {files : FileTree} {answer : op.Result}
    (hfile : store.file = some path) (hop : op.isRead = false)
    (hok : (store.perform op files).1 = .ok answer) :
    (store.perform op files).2.2.read path = .ok (op.apply store.records).document := by
  unfold perform at hok ⊢
  rw [hfile] at hok ⊢
  simp only [hop] at hok ⊢
  cases hpersist : persist files path (op.apply store.records).document with
  | mk outcome left =>
    rw [hpersist] at hok
    cases outcome with
    | error fault => cases hok
    | ok => exact read_of_persist hpersist

theorem open?_document {r : Records} (hkeyed : r.Keyed) (hordered : r.EachSingleton Json.Ordered)
    (hprinted : Json.read? r.document = some r.lists.toJson) {tree : FileTree} {path : String}
    (hread : tree.read path = .ok r.document) :
    (open? tree path).1 = .ok { file := some path, records := r.forgetNulls } := by
  have hlists : RecordLists.ofDocument? r.document = some r.forgetNulls.lists := by
    rw [RecordLists.ofDocument?, hprinted, Option.bind_some, Records.ofJson?_lists hordered]
  unfold open?
  simp only [hread, hlists, Records.records_lists (Records.keyed_forgetNulls hkeyed)]

/-- What is opened after runs on a file, when the last change that succeeded left its document there and
no change has succeeded since: the table without the nulls. It is the table itself just if there are no
nulls in it, and so if no operation saved one. -/
theorem reopened_without_nulls {tree : FileTree} {path : String} (hopen : (open? tree path).1 = .ok store)
    {turns idle : List (RecordOp × FileTree)} {op : RecordOp} {files later : FileTree}
    {answer : op.Result} (hordered : ∀ turn ∈ turns ++ [(op, files)], ∀ j ∈ turn.1.saved, j.Ordered)
    (hop : op.isRead = false) (hok : ((store.after turns).perform op files).1 = .ok answer)
    (hidle : ∀ reply ∈ (store.after (turns ++ [(op, files)])).replies idle,
      reply.op.isRead = true ∨ reply.isOk = false)
    (hlater : later.read path = ((store.after turns).perform op files).2.2.read path)
    (hprinted : Json.read? (store.after (turns ++ (op, files) :: idle)).records.document =
      some (store.after (turns ++ (op, files) :: idle)).records.lists.toJson) :
    (open? later path).1 = .ok
        { file := some path
          records := (store.after (turns ++ (op, files) :: idle)).records.forgetNulls } ∧
      ((open? later path).1 = .ok (store.after (turns ++ (op, files) :: idle)) ↔
        (store.after (turns ++ (op, files) :: idle)).records.EachSingleton (· ≠ .null)) ∧
      ((∀ turn ∈ turns ++ [(op, files)], ∀ j ∈ turn.1.saved, j ≠ .null) →
        (open? later path).1 = .ok (store.after (turns ++ (op, files) :: idle))) := by
  have hfile : ∀ turns, (store.after turns).file = some path := fun turns =>
    (file_after store turns).trans (open?_eq_ok hopen).1
  have hlast : (store.after (turns ++ (op, files) :: idle)).records =
      (store.after (turns ++ [(op, files)])).records := by
    rw [List.append_cons, after_append]
    exact after_of_idle hidle
  have hchanged : (store.after (turns ++ [(op, files)])).records =
      op.apply (store.after turns).records := by
    rw [after_append, after, after, (perform_of_ok hok).2]
  have hinitial := eachSingleton_of_open? hopen
  have hsaved : (store.after (turns ++ [(op, files)])).records.EachSingleton Json.Ordered :=
    eachSingleton_after (hinitial.imp fun j hj => hj.1) hordered
  have hread : later.read path = .ok (store.after (turns ++ (op, files) :: idle)).records.document := by
    rw [hlater, read_of_perform (hfile turns) hop hok, hlast, hchanged]
  have hopened := open?_document (keyed_after (keyed_of_open? hopen) _) (hlast ▸ hsaved) hprinted hread
  have hexact : (open? later path).1 = .ok (store.after (turns ++ (op, files) :: idle)) ↔
      (store.after (turns ++ (op, files) :: idle)).records.EachSingleton (· ≠ .null) := by
    rw [hopened, ← Records.forgetNulls_eq_iff, Except.ok.injEq]
    refine ⟨congrArg RecordStore.records, fun h => ?_⟩
    rw [h, ← hfile (turns ++ (op, files) :: idle)]
  refine ⟨hopened, hexact, fun hnulls => hexact.2 ?_⟩
  rw [hlast]
  exact eachSingleton_after (hinitial.imp fun j hj => hj.2) hnulls

end

namespace Lamp

/-- The lamp is put, and then its singleton is saved as null. -/
def saving : List (RecordOp × FileTree) :=
  [(.putDriver record, clear), (.putSingletons record.id .null none, clear)]

/-- The files after that. -/
def saved : FileTree :=
  ((store.after [(.putDriver record, clear)]).perform (.putSingletons record.id .null none) clear).2.2

theorem read?_saving : Json.read? (store.after saving).records.document =
    some (store.after saving).records.lists.toJson := by
  have h : (Json.read? (store.after saving).records.document).any
      (·.same (store.after saving).records.lists.toJson) = true := by decide +kernel
  obtain ⟨j, hj, hsame⟩ := (Option.any_eq_true _ _).1 h
  rw [hj, Json.eq_of_same hsame]

theorem ordered_saving : ∀ turn ∈ saving, ∀ j ∈ turn.1.saved, j.Ordered := by
  intro turn hturn j hj
  rcases List.mem_cons.1 hturn with rfl | hturn
  · cases hj
  · obtain rfl := List.mem_singleton.1 hturn
    obtain rfl := List.mem_singleton.1 hj
    exact Json.ordered_canonical .null

/-- A deletion that fails afterwards changes nothing of what is opened. -/
theorem lamp_reopened_without_nulls :
    (open? clear "records.json").1 = .ok store ∧
      (∀ turn ∈ saving, ∀ j ∈ turn.1.saved, j.Ordered) ∧
      Json.read? (store.after (saving ++ [(.deleteDriver record.id, crowded)])).records.document =
        some (store.after (saving ++ [(.deleteDriver record.id, crowded)])).records.lists.toJson ∧
      (open? saved "records.json").1 = .ok
        { file := some "records.json"
          records := { drivers := [(record.id, record)] } } := by
  have hopen : (open? clear "records.json").1 = .ok store := rfl
  have hok : ((store.after [(.putDriver record, clear)]).perform
      (.putSingletons record.id .null none) clear).1 = .ok () := rfl
  have hidle : ∀ reply ∈ (store.after saving).replies [(.deleteDriver record.id, crowded)],
      reply.op.isRead = true ∨ reply.isOk = false := by
    intro reply hreply
    obtain rfl := List.mem_singleton.1 hreply
    exact .inr rfl
  have hreopened := @reopened_without_nulls store clear "records.json" hopen
    [(.putDriver record, clear)] [(.deleteDriver record.id, crowded)]
    (.putSingletons record.id .null none) clear saved () ordered_saving rfl hok hidle rfl read?_saving
  exact ⟨hopen, ordered_saving, read?_saving, hreopened.1⟩

/-- The null that was saved is not there when the file is opened again. -/
theorem lamp_null_lost :
    Json.read? (store.after saving).records.document =
        some (store.after saving).records.lists.toJson ∧
      (open? saved "records.json").1 ≠ .ok (store.after saving) := by
  refine ⟨read?_saving, fun h => ?_⟩
  have hkeyed : (store.after saving).records.Keyed := keyed_after Records.keyed_empty saving
  have hordered : (store.after saving).records.EachSingleton Json.Ordered :=
    eachSingleton_after ⟨nofun, nofun⟩ ordered_saving
  have hread : saved.read "records.json" = .ok (store.after saving).records.document :=
    read_of_perform rfl rfl rfl
  rw [open?_document hkeyed hordered read?_saving hread] at h
  have hrecords := congrArg RecordStore.records (Except.ok.inj h)
  exact (Records.forgetNulls_eq_iff.1 hrecords).driver record.id _ .null List.mem_cons_self rfl rfl

end Lamp

end RecordStore

end DriverHub
