import DriverHub.Json.Record

/-! Looking into JSON trees whose form is known: what is not there counts as empty. -/

namespace DriverHub.Json

def get (j : Json) (key : String) : Json := (j.member? key).getD .null

def has (j : Json) (key : String) : Bool := (j.member? key).isSome

def asText (j : Json) : String := j.str?.getD ""

def asNat (j : Json) : Nat := j.nat?.getD 0

def asFlag (j : Json) : Bool := j.bool?.getD false

def asList (j : Json) : List Json := j.items?.getD []

def asInt : Json → Int
  | .int i => i.val
  | _ => 0

def asFields : Json → List (String × Json)
  | .obj fields => fields
  | _ => []

/-- Reads a part that may be missing or null. -/
def optional {α : Type} (read : Json → α) : Json → Option α
  | .null => none
  | j => some (read j)

end DriverHub.Json
