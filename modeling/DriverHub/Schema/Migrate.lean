import DriverHub.Schema.Basic

/-! Carrying a value over to another schema. What still fits is kept and the rest starts from zero;
lists and options are judged by the first value inside them alone. -/

namespace DriverHub.Schema

/-- The first item of a list, if there is one, is of the kind of the schema. -/
def fitsHead (inner : Schema) (items : List Value) : Bool :=
  match items with
  | [] => true
  | first :: _ => inner.matchesKind first

mutual

def migrate : Schema → Value → Value
  | .atom kind, old => if (Schema.atom kind).matchesKind old then old else kind.zero
  | .list inner, old =>
    match old with
    | .list items => if inner.fitsHead items then .list items else .list []
    | _ => .list []
  | .option inner, old =>
    match old with
    | .present held => if inner.matchesKind held then .present held else .absent
    | _ => .absent
  | .struct fields, old => .ofFields (migrateFields fields old)

def migrateFields : List (String × Schema) → Value → List (String × Value)
  | [], _ => []
  | (name, schema) :: rest, old =>
    let carried := match old.field? name with
      | some previous => schema.migrate previous
      | none => schema.zero
    (name, carried) :: migrateFields rest old

end

end DriverHub.Schema
