import DriverHub.Json.Record
import DriverHub.Schema.Basic

/-! Schemas as JSON records. -/

namespace DriverHub

def AtomKind.ofName? : String → Option AtomKind
  | "INT" => some .int
  | "FLOAT" => some .float
  | "BOOL" => some .bool
  | "STRING" => some .string
  | _ => none

namespace Schema

mutual

def toJson : Schema → Json
  | .atom kind => .obj [("type", .str "ATOM"), ("kind", .str kind.name)]
  | .list inner => .obj [("type", .str "COLLECTION"), ("kind", .str "LIST"), ("inner", inner.toJson)]
  | .option inner =>
    .obj [("type", .str "COLLECTION"), ("kind", .str "OPTION"), ("inner", inner.toJson)]
  | .struct fields => .obj [("type", .str "STRUCT"), ("fields", .arr (toJsonFields fields))]

def toJsonFields : List (String × Schema) → List Json
  | [] => []
  | (name, schema) :: rest =>
    .obj [("name", .str name), ("schema", schema.toJson)] :: toJsonFields rest

end

mutual

/-- Reads a schema from a tree as written of at most `fuel` levels. -/
def readJson? : Nat → Json → Option Schema
  | 0, _ => none
  | fuel + 1, j => do
    let (type, rest) ← j.tagged? "type"
    match type with
    | "ATOM" =>
      match ← rest.recordFields? ["kind"] with
      | [kind] => return .atom (← AtomKind.ofName? (← (← kind).choice?))
      | _ => none
    | "COLLECTION" =>
      match ← rest.recordFields? ["kind", "inner"] with
      | [kind, inner] =>
        let inner ← readJson? fuel (← inner)
        match ← (← kind).choice? with
        | "LIST" => return .list inner
        | "OPTION" => return .option inner
        | _ => none
      | _ => none
    | "STRUCT" =>
      match ← rest.recordFields? ["fields"] with
      | [fields] => return .struct (← readFields? fuel (← (← fields).items?))
      | _ => none
    | _ => none

def readFields? : Nat → List Json → Option (List (String × Schema))
  | 0, _ => none
  | _, [] => some []
  | fuel + 1, j :: rest => do
    match ← j.recordFields? ["name", "schema"] with
    | [name, schema] =>
      return (← (← name).str?, ← readJson? fuel (← schema)) :: (← readFields? fuel rest)
    | _ => none

end

def ofJson? (j : Json) : Option Schema := readJson? (j.size + 1) j

end Schema

end DriverHub
