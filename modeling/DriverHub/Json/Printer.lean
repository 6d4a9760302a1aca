import DriverHub.Json.Basic
import DriverHub.Number.Shortest

/-! JSON text: on one line without blanks, or over several lines, two blanks to a level. -/

namespace DriverHub.Json

namespace Printer

def hexDigit (n : Nat) : Char :=
  if n < 10 then Char.ofNat ('0'.toNat + n) else Char.ofNat ('a'.toNat + (n - 10))

/-- A character of a string: quotes, backslashes and control characters are escaped. -/
def escape (c : Char) : List Char :=
  if c = '"' then ['\\', '"']
  else if c = '\\' then ['\\', '\\']
  else if c = '\x08' then ['\\', 'b']
  else if c = '\x0c' then ['\\', 'f']
  else if c = '\n' then ['\\', 'n']
  else if c = '\r' then ['\\', 'r']
  else if c = '\t' then ['\\', 't']
  else if c.toNat < 0x20 then ['\\', 'u', '0', '0', hexDigit (c.toNat / 16), hexDigit (c.toNat % 16)]
  else [c]

def quoted (s : String) : String :=
  "\"" ++ String.ofList (s.toList.flatMap escape) ++ "\""

def number (i : JsonInt) : String := Digits.intText i.val

/-- A line end and the indentation of `level`. -/
def newline (level : Nat) : String :=
  "\n" ++ String.ofList (List.replicate (2 * level) ' ')

end Printer

open Printer

mutual

/-- The text without blanks. -/
def compact : Json → String
  | .null => "null"
  | .bool true => "true"
  | .bool false => "false"
  | .int i => number i
  | .float x => FloatLayout.json.render x.val
  | .str s => quoted s
  | .arr items => "[" ++ String.intercalate "," (compactItems items) ++ "]"
  | .obj fields => "\x7b" ++ String.intercalate "," (compactMembers fields) ++ "\x7d"

def compactItems : List Json → List String
  | [] => []
  | j :: rest => j.compact :: compactItems rest

def compactMembers : List (String × Json) → List String
  | [] => []
  | (k, j) :: rest => (quoted k ++ ":" ++ j.compact) :: compactMembers rest

end

mutual

/-- The text over several lines, as the part of a document at `level`. -/
def prettyAt (level : Nat) : Json → String
  | .arr [] => "[]"
  | .arr items =>
    let lines := (prettyItems (level + 1) items).map (newline (level + 1) ++ ·)
    "[" ++ String.intercalate "," lines ++ newline level ++ "]"
  | .obj [] => "\x7b\x7d"
  | .obj fields =>
    let lines := (prettyMembers (level + 1) fields).map (newline (level + 1) ++ ·)
    "\x7b" ++ String.intercalate "," lines ++ newline level ++ "\x7d"
  | .null => "null"
  | .bool true => "true"
  | .bool false => "false"
  | .int i => number i
  | .float x => FloatLayout.json.render x.val
  | .str s => quoted s

def prettyItems (level : Nat) : List Json → List String
  | [] => []
  | j :: rest => j.prettyAt level :: prettyItems level rest

def prettyMembers (level : Nat) : List (String × Json) → List String
  | [] => []
  | (k, j) :: rest => (quoted k ++ ": " ++ j.prettyAt level) :: prettyMembers level rest

end

/-- The text over several lines. -/
def pretty (j : Json) : String := j.prettyAt 0

end DriverHub.Json
