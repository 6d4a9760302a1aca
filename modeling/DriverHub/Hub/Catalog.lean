import DriverHub.Driver.Extraction
import DriverHub.Hub.Error
import DriverHub.Hub.Service
import DriverHub.Script.DiagnosticReport

/-! The catalog: what is known about the current source of each driver. Analyses and compiled units
are kept per source, so that a source is looked at again only after it changed. -/

namespace DriverHub

structure Catalog where
  /-- What became of each driver's script, with the source that was looked at. -/
  extractions : Dict DriverId (String × Extraction) := []
  units : UnitCache := []
deriving Inhabited

/-- A driver that is ready to run. -/
structure PreparedDriver where
  unit : CompiledUnit
  info : DriverInfo
  program : Program

/-- Drivers are looked up in the catalog, which may have to ask the script engine. -/
abbrev Lookup := Attempt services Catalog HubError

namespace Catalog

def known? (driver : DriverRecord) (catalog : Catalog) : Option Extraction :=
  match Dict.find? driver.id catalog.extractions with
  | some (source, e) => if source = driver.source then some e else none
  | none => none

def remember (driver : DriverRecord) (e : Extraction) (catalog : Catalog) : Catalog :=
  { catalog with extractions := Dict.insert driver.id (driver.source, e) catalog.extractions }

/-- Forgets what is known about a driver. -/
def invalidate (id : DriverId) (catalog : Catalog) : Catalog where
  extractions := Dict.erase id catalog.extractions
  units := catalog.units.drop id.programId

end Catalog

/-- What an analysis tells about a driver. -/
def Analysis.extraction : Analysis → Extraction
  | rejected diagnostics => .invalid diagnostics
  | analyzed program warnings =>
    match program.extract with
    | .ok info => .valid info program warnings
    | .error diagnostics => .invalid diagnostics

namespace DriverRecord

/-- The line about a driver whose script was not accepted, with a report on each diagnostic. -/
def invalidLine (driver : DriverRecord) (diagnostics : List Diagnostic) : LogLine :=
  .warn ("[" ++ driver.id.text ++ "] Driver script is invalid:\n" ++
    reportDiagnostics driver.source driver.id.programId diagnostics)

/-- What became of the script of a driver. -/
def extraction (driver : DriverRecord) : Lookup Extraction := do
  match ← .look (Catalog.known? driver) with
  | some e => return e
  | none =>
    let analysis ← Attempt.of .engine (Service.request (.analyze driver.id.programId driver.source))
    let e := analysis.extraction
    match e with
    | .invalid diagnostics => .report (driver.invalidLine diagnostics)
    | .valid .. => pure ()
    .change (Catalog.remember driver e)
    return e

/-- The schemas and capabilities of a driver, which has to be valid. -/
def validInfo (driver : DriverRecord) : Lookup DriverInfo := do
  match ← driver.extraction with
  | .valid info _ _ => return info
  | .invalid diagnostics => Attempt.fail (.driverInvalid driver.id diagnostics)

/-- A driver that is ready to run; it has to be valid. -/
def prepare (driver : DriverRecord) : Lookup PreparedDriver := do
  match ← driver.extraction with
  | .valid info program _ =>
    let compile := UnitCache.getOrCompile program driver.source
    let unit ← Attempt.of HubError.engine
      (compile.run.embed Catalog.units (fun units c => { c with units }) Service.request)
    return { unit, info, program }
  | .invalid diagnostics => Attempt.fail (.driverInvalid driver.id diagnostics)

end DriverRecord

end DriverHub
