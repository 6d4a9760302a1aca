import DriverHub.Hub.Invocation
import DriverHub.Schema.Restore

/-! Managing drivers and devices: creating and deleting them, giving a driver new code, and changing
configurations. Whatever is kept in memory is saved in a record first. -/

namespace DriverHub

/-- The driver or device that a configuration belongs to. -/
inductive ConfigTarget where
  | driver (id : DriverId)
  | device (id : DeviceId)
deriving DecidableEq

namespace Work

def setDriver (id : DriverId) (v : Value) : Work Unit :=
  .change fun s => { s with singletons := s.singletons.setDriver id v }

def setDevice (id : DeviceId) (v : Value) : Work Unit :=
  .change fun s => { s with singletons := s.singletons.setDevice id v }

/-- The current singleton of a driver. -/
def driverValue (id : DriverId) : Work Value := .of .singleton (Flow.look (·.singletons.driver id))

/-- The current singleton of a device. -/
def deviceValue (id : DeviceId) : Work Value := .of .singleton (Flow.look (·.singletons.device id))

/-- Records a new driver, whether its script is valid or not. -/
def createDriver (driver : DriverRecord) : Work Extraction := do
  match ← record (.driver driver.id) with
  | some _ => .fail (.driverExists driver.id)
  | none =>
    let e ← driver.extraction
    let v := match e.info? with
      | some info => info.driverSchema.zero
      | none => .object []
    record (.putDriver { driver with singleton := some v.toJson })
    setDriver driver.id v
    .report (.info ("[" ++ driver.id.text ++ "] Created driver (" ++
      (if e.isValid then "valid" else "invalid") ++ ")"))
    return e

/-- Saves the singletons of a driver's devices under a new schema, one after another. -/
def migrateDevices (id : DriverId) (schema : Schema) (schemaless : Bool) :
    List DeviceRecord → Work (List (DeviceId × Value))
  | [] => return []
  | device :: rest => do
    if device.driver = id then
      let v := schema.carryOver (← deviceValue device.id) device.singleton schemaless
      record (.putDevice { device with singleton := some v.toJson })
      return (device.id, v) :: (← migrateDevices id schema schemaless rest)
    else migrateDevices id schema schemaless rest

def setDevices : List (DeviceId × Value) → Work Unit
  | [] => return
  | (id, v) :: rest => do
    setDevice id v
    setDevices rest

/-- Gives a driver new code. If that is valid, the singletons of the driver and of its devices are
carried over; if not, they stay as they are. -/
def applyCode (id : DriverId) (source : String) : Work Extraction := do
  let old ← driverRecord id
  let schemaless := !(← old.extraction).isValid
  .change fun s => { s with catalog := s.catalog.invalidate id }
  let driver := { old with source }
  let e ← driver.extraction
  match e.info? with
  | none =>
    .report (.warn ("[" ++ id.text ++ "] New source is invalid, keeping singletons as they are"))
    record (.putDriver driver)
    return e
  | some info =>
    let v := info.driverSchema.carryOver (← driverValue id) driver.singleton schemaless
    let devices ← migrateDevices id info.deviceSchema schemaless (← record .devices)
    record (.putDriver { driver with singleton := some v.toJson })
    .report (.info ("[" ++ id.text ++ "] Applied new source, migrated " ++
      Digits.natText devices.length ++ " device(s)"))
    setDriver id v
    setDevices devices
    return e

/-- Deletes a driver that no device uses. -/
def deleteDriver (id : DriverId) : Work Unit := do
  let users := (← record .devices).filter (·.driver = id)
  if !users.isEmpty then .fail (.driverInUse id users.length)
  else if !(← record (.deleteDriver id)) then .fail (.driverNotFound id)
  else
    .change fun s => { s with singletons := s.singletons.removeDriver id }
    .change fun s => { s with catalog := s.catalog.invalidate id }
    .report (.info ("[" ++ id.text ++ "] Deleted driver"))

/-- Records a new device of a valid driver. -/
def createDevice (device : DeviceRecord) : Work Unit := do
  match ← record (.device device.id) with
  | some _ => .fail (.deviceExists device.id)
  | none =>
    let driver ← driverRecord device.driver
    let v := (← driver.validInfo : DriverInfo).deviceSchema.zero
    record (.putDevice { device with singleton := some v.toJson })
    setDevice device.id v
    .report (.info ("[" ++ device.id ++ "] Created device of driver " ++ driver.id.text))

def deleteDevice (id : DeviceId) : Work Unit := do
  if ← record (.deleteDevice id) then
    .change fun s => { s with singletons := s.singletons.removeDevice id }
    .report (.info ("[" ++ id ++ "] Deleted device"))
  else .fail (.deviceNotFound id)

/-- The schema of a configuration. -/
def configSchema : ConfigTarget → Work Schema
  | .driver id => do
    return (← (← driverRecord id).validInfo : DriverInfo).driverSchema
  | .device id => do
    let device ← deviceRecord id
    return (← (← driverRecord device.driver).validInfo : DriverInfo).deviceSchema

/-- Checks a new configuration and changes nothing. -/
def validateConfig (t : ConfigTarget) (json : Json) : Work Unit := do
  let schema ← configSchema t
  .of .config (.done (schema.validate json))

/-- Makes a new configuration the singleton of its target. -/
def applyConfig (t : ConfigTarget) (json : Json) : Work Unit := do
  let schema ← configSchema t
  let v ← .of .config (.done (schema.decode json))
  match t with
  | .driver id =>
    record (.putSingletons id v.toJson none)
    setDriver id v
  | .device id =>
    let device ← deviceRecord id
    record (.putDevice { device with singleton := some v.toJson })
    setDevice id v

end Work

end DriverHub
