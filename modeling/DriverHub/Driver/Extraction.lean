import DriverHub.Driver.Conformance
import DriverHub.Schema.Json
import DriverHub.Schema.Lower

/-! What the hub learns about a driver from its analyzed script: the shapes of its two singletons and
the capabilities they provide. -/

namespace DriverHub

structure DriverInfo where
  driverSchema : Schema
  deviceSchema : Schema
  driverCapabilities : List Capability
  deviceCapabilities : List Capability
deriving Inhabited

/-- What became of a driver script. -/
inductive Extraction where
  | valid (info : DriverInfo) (program : Program) (warnings : List Diagnostic)
  | invalid (diagnostics : List Diagnostic)

namespace Extraction

def info? : Extraction → Option DriverInfo
  | valid info _ _ => some info
  | invalid _ => none

def isValid : Extraction → Bool
  | valid .. => true
  | invalid _ => false

def diagnostics : Extraction → List Diagnostic
  | valid _ _ warnings => warnings
  | invalid diagnostics => diagnostics

end Extraction

def DriverInfo.toJson (info : DriverInfo) : Json :=
  let set (capabilities : List Capability) := Json.arr (capabilities.map (.str ·.name))
  .obj [("driver_config", info.driverSchema.toJson), ("device_config", info.deviceSchema.toJson),
    ("driver_capabilities", set info.driverCapabilities),
    ("device_capabilities", set info.deviceCapabilities)]

namespace Program

def singletonMissing (program : Program) (ident : String) : Diagnostic :=
  .error ("Singleton `" ++ ident ++ "` not found") program.span

def notAnObject (singleton : Singleton) : Diagnostic :=
  .error ("Singleton `" ++ singleton.ident ++ "` must have an object type, found `" ++
    singleton.type.text ++ "`") singleton.span

/-- The schema of a singleton, which has to be a struct. -/
def singletonSchema (singleton : Singleton) : Except Diagnostic Schema :=
  match singleton.type.schema singleton.span with
  | .ok (.struct fields) => .ok (.struct fields)
  | .ok _ => .error (notAnObject singleton)
  | .error d => .error d

/-- The schema and the capabilities of the singleton that implements a template, or everything that
is wrong with it. -/
def singletonInfo (program : Program) (template : Template) :
    Except (List Diagnostic) (Schema × List Capability) :=
  match program.singleton? template.singleton with
  | none => .error [program.singletonMissing template.singleton]
  | some singleton =>
    match template.check singleton, singletonSchema singleton with
    | .ok capabilities, .ok schema => .ok (schema, capabilities)
    | .ok _, .error d => .error [d]
    | .error faults, .ok _ => .error faults
    | .error faults, .error d => .error (faults ++ [d])

/-- What a program tells about its driver, or everything that is wrong with its two singletons, the
driver's first. -/
def extract (program : Program) : Except (List Diagnostic) DriverInfo :=
  match program.singletonInfo .driver, program.singletonInfo .device with
  | .ok (driverSchema, driverCapabilities), .ok (deviceSchema, deviceCapabilities) =>
    .ok { driverSchema, deviceSchema, driverCapabilities, deviceCapabilities }
  | .ok _, .error device => .error device
  | .error driver, .ok _ => .error driver
  | .error driver, .error device => .error (driver ++ device)

end Program

end DriverHub
