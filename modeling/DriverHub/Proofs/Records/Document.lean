import DriverHub.Proofs.Driver.Version
import DriverHub.Proofs.Records
import DriverHub.Proofs.Schema.Faults
import DriverHub.Records.Document

/-! What is read back from the document of a table: the table itself, except that a saved singleton that
is null counts as none. -/

namespace DriverHub

/-! ### Trees in order -/

namespace Dict

/-- Values that are all kept make up the same map. -/
theorem map_eq_self_iff {κ α : Type} {f : α → α} {dict : Dict κ α} :
    dict.map (fun e => (e.1, f e.2)) = dict ↔ ∀ k a, (k, a) ∈ dict → f a = a := by
  induction dict with
  | nil => exact iff_of_true rfl nofun
  | cons e rest ih =>
    obtain ⟨k, a⟩ := e
    rw [List.map_cons, List.cons.injEq, ih]
    constructor
    · rintro ⟨hfirst, hrest⟩ k' a' hmem
      rcases List.mem_cons.1 hmem with heq | hmem
      · cases heq
        exact congrArg Prod.snd hfirst
      · exact hrest k' a' hmem
    · intro h
      refine ⟨Prod.ext rfl (h k a List.mem_cons_self), fun k' a' hmem => ?_⟩
      exact h k' a' (List.mem_cons_of_mem _ hmem)

variable {κ α : Type} [DecidableEq κ] [LT κ] [DecidableLT κ] [IsStrictTotalOrder κ (· < ·)]

theorem ofList_of_sorted {dict : Dict κ α} (h : Sorted dict) : ofList dict = dict :=
  ext_of_sorted (sorted_ofList dict) h fun k => find?_ofList (nodup_keys h) k

/-- Values listed in order and put back under their keys are the map they come from. -/
theorem ofList_values {dict : Dict κ α} (hs : Sorted dict) {key : α → κ}
    (hkey : ∀ k a, (k, a) ∈ dict → key a = k) :
    ofList ((values dict).map fun a => (key a, a)) = dict := by
  have hsame : (values dict).map (fun a => (key a, a)) = dict := by
    unfold values
    rw [List.map_map]
    refine (List.map_congr_left fun e he => ?_).trans (List.map_id dict)
    exact Prod.ext (hkey e.1 e.2 he) rfl
  rw [hsame, ofList_of_sorted hs]

end Dict

namespace Json

theorem Ordered.member {members : List (String × Json)} (h : (Json.obj members).Ordered) {name : String}
    {j : Json} (hmem : (name, j) ∈ members) : j.Ordered := by
  have hstep : (Json.obj members).step? (.member name) = some j := Dict.find?_of_mem h.sorted hmem
  exact h.step hstep

mutual

/-- A tree in order is not changed by putting it in order. -/
theorem canonical_of_ordered : ∀ {j : Json}, j.Ordered → j.canonical = j
  | .null, _ | .bool _, _ | .int _, _ | .float _, _ | .str _, _ => rfl
  | .arr items, h => congrArg Json.arr (canonicalItems_of_ordered h.item)
  | .obj members, h => by
    rw [canonical, canonicalMembers_of_ordered fun name j => h.member, Dict.ofList_of_sorted h.sorted]

theorem canonicalItems_of_ordered : ∀ {items : List Json}, (∀ j ∈ items, j.Ordered) →
    canonicalItems items = items
  | [], _ => rfl
  | j :: rest, h => by
    rw [canonicalItems, canonical_of_ordered (h j List.mem_cons_self),
      canonicalItems_of_ordered fun j' hj' => h j' (List.mem_cons_of_mem _ hj')]

theorem canonicalMembers_of_ordered : ∀ {members : List (String × Json)},
    (∀ name j, (name, j) ∈ members → j.Ordered) → canonicalMembers members = members
  | [], _ => rfl
  | (name, j) :: rest, h => by
    rw [canonicalMembers, canonical_of_ordered (h name j List.mem_cons_self),
      canonicalMembers_of_ordered fun name' j' hj' => h name' j' (List.mem_cons_of_mem _ hj')]

end

end Json

/-! ### Comparing trees -/

namespace Json

mutual

/-- A test for equality that computes. -/
def same : Json → Json → Bool
  | .null, other => match other with | .null => true | _ => false
  | .bool b, other => match other with | .bool c => b = c | _ => false
  | .int i, other => match other with | .int k => i = k | _ => false
  | .float x, other => match other with | .float y => x = y | _ => false
  | .str s, other => match other with | .str t => s = t | _ => false
  | .arr items, other => match other with | .arr others => sameItems items others | _ => false
  | .obj members, other => match other with | .obj others => sameMembers members others | _ => false

def sameItems : List Json → List Json → Bool
  | [], others => others.isEmpty
  | j :: rest, others => match others with | k :: others => j.same k && sameItems rest others | [] => false

def sameMembers : List (String × Json) → List (String × Json) → Bool
  | [], others => others.isEmpty
  | (name, j) :: rest, others =>
    match others with
    | (key, k) :: others => decide (name = key) && j.same k && sameMembers rest others
    | [] => false

end

mutual

theorem eq_of_same : ∀ {j other : Json}, j.same other = true → j = other
  | .null, other, h => by cases other <;> first | rfl | cases h
  | .bool b, other, h => by cases other <;> first | exact congrArg _ (of_decide_eq_true h) | cases h
  | .int i, other, h => by cases other <;> first | exact congrArg _ (of_decide_eq_true h) | cases h
  | .float x, other, h => by cases other <;> first | exact congrArg _ (of_decide_eq_true h) | cases h
  | .str s, other, h => by cases other <;> first | exact congrArg _ (of_decide_eq_true h) | cases h
  | .arr items, other, h => by cases other <;> first | exact congrArg _ (eq_of_sameItems h) | cases h
  | .obj members, other, h => by cases other <;> first | exact congrArg _ (eq_of_sameMembers h) | cases h

theorem eq_of_sameItems : ∀ {items others : List Json}, sameItems items others = true → items = others
  | [], others, h => (List.isEmpty_iff.1 h).symm
  | j :: rest, others, h => by
    cases others with
    | nil => cases h
    | cons k others =>
      obtain ⟨hfirst, hrest⟩ := Bool.and_eq_true_iff.1 h
      rw [eq_of_same hfirst, eq_of_sameItems hrest]

theorem eq_of_sameMembers : ∀ {members others : List (String × Json)},
    sameMembers members others = true → members = others
  | [], others, h => (List.isEmpty_iff.1 h).symm
  | (name, j) :: rest, others, h => by
    cases others with
    | nil => cases h
    | cons other others =>
      obtain ⟨key, k⟩ := other
      obtain ⟨hboth, hrest⟩ := Bool.and_eq_true_iff.1 h
      obtain ⟨hname, hfirst⟩ := Bool.and_eq_true_iff.1 hboth
      rw [of_decide_eq_true hname, eq_of_same hfirst, eq_of_sameMembers hrest]

end

end Json

/-! ### Saved singletons -/

/-- A null that is read as none. -/
def Json.orNone : Json → Option Json
  | .null => none
  | j => some j

/-- Only a null gets lost. -/
theorem Json.bind_orNone_eq_iff (singleton : Option Json) :
    singleton.bind orNone = singleton ↔ ∀ j, singleton = some j → j ≠ .null := by
  cases singleton with
  | none => exact iff_of_true rfl nofun
  | some j =>
    cases j with
    | null => exact iff_of_false nofun fun h => h .null rfl rfl
    | bool | int | float | str | arr | obj => exact iff_of_true rfl fun j hj => by cases hj; nofun

theorem readSingleton?_getD {singleton : Option Json} (h : ∀ j, singleton = some j → j.Ordered) :
    readSingleton? (some (singleton.getD .null)) = singleton.bind Json.orNone := by
  cases singleton with
  | none => rfl
  | some j =>
    have hcanonical := Json.canonical_of_ordered (h j rfl)
    cases j with
    | null => rfl
    | bool | int | float | str | arr | obj => exact congrArg some hcanonical

def DriverRecord.forgetNull (r : DriverRecord) : DriverRecord :=
  { r with singleton := r.singleton.bind Json.orNone }

def DeviceRecord.forgetNull (r : DeviceRecord) : DeviceRecord :=
  { r with singleton := r.singleton.bind Json.orNone }

theorem DriverRecord.forgetNull_eq_iff (r : DriverRecord) :
    r.forgetNull = r ↔ ∀ j, r.singleton = some j → j ≠ .null := by
  obtain ⟨id, name, version, source, singleton⟩ := r
  simp only [forgetNull, DriverRecord.mk.injEq, true_and, Json.bind_orNone_eq_iff]

theorem DeviceRecord.forgetNull_eq_iff (r : DeviceRecord) :
    r.forgetNull = r ↔ ∀ j, r.singleton = some j → j ≠ .null := by
  obtain ⟨id, name, room, driver, singleton⟩ := r
  simp only [forgetNull, DeviceRecord.mk.injEq, true_and, Json.bind_orNone_eq_iff]

namespace Records

/-- The table with each saved singleton that is null taken for none. -/
def forgetNulls (r : Records) : Records :=
  { r with
    drivers := r.drivers.map fun e => (e.1, e.2.forgetNull)
    devices := r.devices.map fun e => (e.1, e.2.forgetNull) }

/-- All saved singletons are of a kind. -/
structure EachSingleton (P : Json → Prop) (r : Records) : Prop where
  driver : ∀ id record j, (id, record) ∈ r.drivers → record.singleton = some j → P j
  device : ∀ id record j, (id, record) ∈ r.devices → record.singleton = some j → P j

end Records

/-! ### One record -/

namespace DriverId

theorem ofJson?_toJson (id : DriverId) : ofJson? id.toJson = some id := by
  simp [ofJson?, toJson, Json.recordFields?, Dict.find?, Json.str?]

end DriverId

theorem DriverRecord.ofJson?_toJson {r : DriverRecord} (h : ∀ j, r.singleton = some j → j.Ordered) :
    ofJson? r.toJson = some r.forgetNull := by
  simp [ofJson?, toJson, Json.recordFields?, Dict.find?, Json.str?, DriverId.ofJson?_toJson,
    Version.parse?_text, readSingleton?_getD h, forgetNull]

theorem DeviceRecord.ofJson?_toJson {r : DeviceRecord} (h : ∀ j, r.singleton = some j → j.Ordered) :
    ofJson? r.toJson = some r.forgetNull := by
  simp [ofJson?, toJson, Json.recordFields?, Dict.find?, Json.str?, DriverId.ofJson?_toJson,
    readSingleton?_getD h, forgetNull]

theorem ScriptRecord.ofJson?_toJson (r : ScriptRecord) : ofJson? r.toJson = some r := by
  simp [ofJson?, toJson, Json.recordFields?, Dict.find?, Json.str?]

/-! ### All records -/

theorem Json.listOf?_map {α β : Type} {read : Json → Option β} {write : α → Json} {back : α → β}
    {items : List α} (h : ∀ a ∈ items, read (write a) = some (back a)) :
    (Json.arr (items.map write)).listOf? read = some (items.map back) := by
  change (items.map write).mapM read = some (items.map back)
  induction items with
  | nil => rfl
  | cons a rest ih =>
    rw [List.map_cons, List.mapM_cons, h a List.mem_cons_self,
      ih fun b hb => h b (List.mem_cons_of_mem _ hb)]
    rfl

theorem RecordLists.ofJson?_toJson {l : RecordLists}
    (hdrivers : ∀ r ∈ l.drivers, ∀ j, r.singleton = some j → j.Ordered)
    (hdevices : ∀ r ∈ l.devices, ∀ j, r.singleton = some j → j.Ordered) :
    ofJson? l.toJson = some { l with
      drivers := l.drivers.map (·.forgetNull)
      devices := l.devices.map (·.forgetNull) } := by
  have hd : (Json.arr (l.drivers.map (·.toJson))).listOf? DriverRecord.ofJson? =
      some (l.drivers.map (·.forgetNull)) :=
    Json.listOf?_map fun r hr => DriverRecord.ofJson?_toJson (hdrivers r hr)
  have hv : (Json.arr (l.devices.map (·.toJson))).listOf? DeviceRecord.ofJson? =
      some (l.devices.map (·.forgetNull)) :=
    Json.listOf?_map fun r hr => DeviceRecord.ofJson?_toJson (hdevices r hr)
  have hs : (Json.arr (l.scripts.map (·.toJson))).listOf? ScriptRecord.ofJson? =
      some (l.scripts.map id) :=
    Json.listOf?_map fun r _ => r.ofJson?_toJson
  simp [ofJson?, toJson, Json.recordFields?, Dict.find?, listOr?, hd, hv, hs]

namespace Records

variable {r : Records}

theorem ofJson?_lists (h : r.EachSingleton Json.Ordered) :
    RecordLists.ofJson? r.lists.toJson = some r.forgetNulls.lists := by
  rw [RecordLists.ofJson?_toJson]
  · simp [forgetNulls, lists, Dict.values]
  · intro record hrecord j hj
    obtain ⟨id, hmem⟩ := Dict.mem_values.1 hrecord
    exact h.driver id record j hmem hj
  · intro record hrecord j hj
    obtain ⟨id, hmem⟩ := Dict.mem_values.1 hrecord
    exact h.device id record j hmem hj

theorem keyed_forgetNulls (h : r.Keyed) : r.forgetNulls.Keyed where
  drivers := List.pairwise_map.2 h.drivers
  devices := List.pairwise_map.2 h.devices
  scripts := h.scripts
  driverId id record hmem := by
    obtain ⟨⟨key, old⟩, hold, heq⟩ := List.mem_map.1 hmem
    cases heq
    exact h.driverId key old hold
  deviceId id record hmem := by
    obtain ⟨⟨key, old⟩, hold, heq⟩ := List.mem_map.1 hmem
    cases heq
    exact h.deviceId key old hold
  scriptId := h.scriptId

/-- Records listed in order and put back under their identities are the table they come from. -/
theorem records_lists (h : r.Keyed) : r.lists.records = r := by
  unfold lists RecordLists.records
  rw [Dict.ofList_values h.drivers h.driverId, Dict.ofList_values h.devices h.deviceId,
    Dict.ofList_values h.scripts h.scriptId]

/-- A table is kept as it is just if no saved singleton is null. -/
theorem forgetNulls_eq_iff : r.forgetNulls = r ↔ r.EachSingleton (· ≠ .null) := by
  obtain ⟨drivers, devices, scripts⟩ := r
  simp only [forgetNulls, Records.mk.injEq, and_true, Dict.map_eq_self_iff,
    DriverRecord.forgetNull_eq_iff, DeviceRecord.forgetNull_eq_iff]
  constructor
  · rintro ⟨hdriver, hdevice⟩
    exact ⟨fun id record j hmem => hdriver id record hmem j, fun id record j hmem => hdevice id record hmem j⟩
  · rintro ⟨hdriver, hdevice⟩
    exact ⟨fun id record hmem j => hdriver id record j hmem, fun id record hmem j => hdevice id record j hmem⟩

end Records

end DriverHub
