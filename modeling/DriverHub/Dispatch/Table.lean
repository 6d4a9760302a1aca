import DriverHub.Dict
import DriverHub.Dispatch.Registration

/-! The table of registrations. Beside the registrations it keeps who listens on each topic, who waits
for each job to end, and who waits for events of devices. -/

namespace DriverHub

structure RegistrationTable where
  all : Dict RegistrationId Registration := []
  /-- Who listens on each topic; a topic without listeners is not listed. -/
  listening : Dict String (List RegistrationId) := []
  kills : Dict JobId (List RegistrationId) := []
  deviceEvents : List RegistrationId := []
deriving Inhabited

namespace RegistrationTable

def get? (id : RegistrationId) (table : RegistrationTable) : Option Registration :=
  Dict.find? id table.all

/-- The registrations in the order of their identifiers. -/
def registrations (table : RegistrationTable) : List Registration := Dict.values table.all

def topics (table : RegistrationTable) : List String := Dict.keys table.listening

abbrev Listening := Dict String (List RegistrationId)

/-- Adds a listener to the topics, and answers which of them had none before. -/
def listen (id : RegistrationId) : List String → Listening → List String × Listening
  | [], listening => ([], listening)
  | topic :: rest, listening =>
    let ids := (Dict.find? topic listening).getD []
    let (fresh, after) :=
      listen id rest (Dict.insert topic (if id ∈ ids then ids else ids ++ [id]) listening)
    (if ids.isEmpty then topic :: fresh else fresh, after)

/-- Takes an identifier out of the list under a key; a list that becomes empty goes. -/
def takeOut {κ : Type} [DecidableEq κ] (id : RegistrationId) (key : κ)
    (index : Dict κ (List RegistrationId)) : Dict κ (List RegistrationId) :=
  match Dict.find? key index with
  | none => index
  | some ids =>
    let left := ids.filter (· ≠ id)
    if left.isEmpty then Dict.erase key index else Dict.modify key (fun _ => left) index

/-- Takes a listener off the topics, and answers which of them have none any more. -/
def unlisten (id : RegistrationId) : List String → Listening → List String × Listening
  | [], listening => ([], listening)
  | topic :: rest, listening =>
    let left := takeOut id topic listening
    let (orphaned, after) := unlisten id rest left
    (if Dict.contains topic listening && !Dict.contains topic left then topic :: orphaned
      else orphaned, after)

/-- Adds a registration, and answers the topics that have their first listener now. -/
def insert (r : Registration) (table : RegistrationTable) : List String × RegistrationTable :=
  let table := { table with all := Dict.insert r.id r table.all }
  match r.request.trigger with
  | .message topics =>
    let (fresh, listening) := listen r.id topics table.listening
    (fresh, { table with listening })
  | .kill job =>
    let ids := (Dict.find? job table.kills).getD []
    ([], { table with kills := Dict.insert job (ids ++ [r.id]) table.kills })
  | .deviceEvent _ => ([], { table with deviceEvents := table.deviceEvents ++ [r.id] })
  | .atTime _ => ([], table)

/-- Removes a registration, and answers it with the topics that lost their last listener. -/
def remove (id : RegistrationId) (table : RegistrationTable) :
    Option (Registration × List String) × RegistrationTable :=
  match table.get? id with
  | none => (none, table)
  | some r =>
    let table := { table with all := Dict.erase id table.all }
    match r.request.trigger with
    | .message topics =>
      let (orphaned, listening) := unlisten id topics table.listening
      (some (r, orphaned), { table with listening })
    | .kill job => (some (r, []), { table with kills := takeOut id job table.kills })
    | .deviceEvent _ =>
      (some (r, []), { table with deviceEvents := table.deviceEvents.filter (· ≠ id) })
    | .atTime _ => (some (r, []), table)

/-- The registrations that a message under the topic is delivered to. -/
def listeners (topic : String) (table : RegistrationTable) : List Registration :=
  ((Dict.find? topic table.listening).getD []).filterMap table.get?

/-- The registrations that wait for the end of a job. -/
def waitingFor (job : JobId) (table : RegistrationTable) : List RegistrationId :=
  (Dict.find? job table.kills).getD []

/-- The registrations that an event of a device is delivered to. -/
def deviceListeners (driver : DriverId) (device : DeviceId) (topic : String)
    (table : RegistrationTable) : List Registration :=
  (table.deviceEvents.filterMap table.get?).filter fun r =>
    match r.request.trigger with
    | .deviceEvent e => e.fires driver device topic
    | _ => false

/-- The registrations whose place a request takes. -/
def replacedBy (request : RegisterRequest) (table : RegistrationTable) : List RegistrationId :=
  (table.registrations.filter fun r => request.replaces r.request).map (·.id)

def ofProgram (program : String) (table : RegistrationTable) : List RegistrationId :=
  (table.registrations.filter fun r => r.request.program = program).map (·.id)

/-- The registrations that come from annotations of the driver on the device. -/
def annotating (driver : Option DriverId) (device : Option DeviceId) (table : RegistrationTable) :
    List RegistrationId :=
  (table.registrations.filter fun r => r.request.annotates driver device).map (·.id)

end RegistrationTable

end DriverHub
