import DriverHub.Script.Call

/-! Compiled units that are kept for later calls. Each program has at most one, and it serves only the
revision of the source that it was compiled from. -/

namespace DriverHub

abbrev UnitCache := Dict String (String × CompiledUnit)

namespace UnitCache

/-- The unit of a program at a revision. -/
def get? (program revision : String) (cache : UnitCache) : Option CompiledUnit :=
  match Dict.find? program cache with
  | some (kept, unit) => if kept = revision then some unit else none
  | none => none

def put (program revision : String) (unit : CompiledUnit) (cache : UnitCache) : UnitCache :=
  Dict.insert program (revision, unit) cache

def drop (program : String) (cache : UnitCache) : UnitCache := Dict.erase program cache

end UnitCache

end DriverHub
