import DriverHub.Schema.Decode
import DriverHub.Schema.Migrate
import DriverHub.Value.Marshal

/-! Bringing saved singletons back. A saved tree that the schema accepts is read as the schema says; of
any other tree the parts that still fit are kept. -/

namespace DriverHub

namespace Schema

/-- The value of a saved tree, and whether it had to be migrated. -/
def recover (schema : Schema) (saved : Json) : Value × Bool :=
  match schema.decode saved with
  | .ok v => (v, false)
  | .error _ => (schema.migrate (Value.ofJson saved), true)

/-- The value of what was saved; where nothing was, the singleton starts anew. -/
def restore (schema : Schema) : Option Json → Value × Bool
  | none => (schema.zero, false)
  | some saved => schema.recover saved

/-- The value of a singleton under a new schema. After a time without a schema the saved tree counts,
and the current value otherwise. -/
def carryOver (schema : Schema) (current : Value) (saved : Option Json) (schemaless : Bool) : Value :=
  match saved, schemaless with
  | some tree, true => (schema.recover tree).1
  | _, _ => schema.migrate current

end Schema

/-- The value of a saved singleton while there is no schema for it. -/
def Value.schemaless : Option Json → Value
  | none => .object []
  | some saved => .ofJson saved

end DriverHub
