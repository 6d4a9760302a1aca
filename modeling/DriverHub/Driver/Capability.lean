/-! Templates and capabilities. A template is the contract of one singleton; it is implemented with
a set of capabilities, each of which requires certain methods. -/

namespace DriverHub

inductive Capability where
  | base | power | dimmable | sensor
deriving DecidableEq, Inhabited

namespace Capability

def name : Capability → String
  | base => "base"
  | power => "power"
  | dimmable => "dimmable"
  | sensor => "sensor"

/-- All capabilities, in the order in which sets of them are listed. -/
def all : List Capability := [base, power, dimmable, sensor]

def ofName? (name : String) : Option Capability := all.find? (·.name = name)

/-- The set of the given capabilities, in order and without repetition. -/
def setOf (capabilities : List Capability) : List Capability :=
  all.filter (· ∈ capabilities)

def setText (set : List Capability) : String :=
  "\x7b " ++ String.intercalate ", " (set.map name) ++ " \x7d"

end Capability

inductive Template where
  | driver | device
deriving DecidableEq

namespace Template

def name : Template → String
  | driver => "Driver"
  | device => "Device"

/-- The identifier of the singleton that implements the template. -/
def singleton : Template → String
  | driver => "@Driver"
  | device => "@Device"

/-- The capabilities that a template can be implemented with. -/
def offered : Template → List Capability
  | driver => [.base]
  | device => Capability.all

/-- The methods that a singleton has to define for a capability. -/
def required : Template → Capability → List String
  | driver, .base => ["validate_driver"]
  | driver, _ => []
  | device, .base => ["validate_device"]
  | device, .power => ["set_power", "report_power", "report_power_draw"]
  | device, .dimmable => ["dim", "report_dim"]
  | device, .sensor => ["report_sensor_readings"]

end Template

end DriverHub
