import DriverHub.Driver.Action
import DriverHub.Hub.Invocation

/-! Actions on devices. A device serves an action only if its driver provides the capability that the
action needs, and the value that comes back has to keep the contract of the function called. -/

namespace DriverHub.Work

/-- The target of a device whose driver provides a capability. -/
def prepareDevice (id : DeviceId) (capability : Capability) : Work (Target × PreparedDriver) := do
  let record ← deviceRecord id
  let target : Target := { driver := record.driver, device := some id }
  let prepared ← target.prepare
  if capability ∈ prepared.info.deviceCapabilities then return (target, prepared)
  else .fail (.unsupported id capability)

/-- Asks something of a device. -/
def act (id : DeviceId) (request : ActionRequest) (token : TokenId) : Work (Outcome ActionOutput) := do
  let (target, prepared) ← prepareDevice id request.capability
  target.invokeChecked prepared request.call token
    (request.check (prepared.program.spanOf request.call.function))

def performAction (id : DeviceId) (request : ActionRequest) (token : TokenId) :
    Work ActionResponse := do
  return .ofOutcome (← act id request token)

/-- Lets a driver check its own configuration. -/
def validateDriver (id : DriverId) (token : TokenId) : Work (Outcome Unit) := do
  let function := "validate_driver"
  let target : Target := { driver := id }
  let prepared ← target.prepare
  target.invokeChecked prepared { function, signature := { returns := .null } } token
    (Contract.null function (prepared.program.spanOf function))

end DriverHub.Work
