import DriverHub.Json.Basic
import DriverHub.Number.Digits

/-! Reading JSON text, strictly: no other blanks than space, tab and line ends, no raw control
characters or lone surrogates in strings, no leading zeros, and at most 127 levels of nesting.
Objects come out as written, with their members in text order and repeated keys kept. -/

namespace DriverHub.Json

namespace Parser

def isBlank (c : Char) : Bool :=
  c = ' ' || c = '\t' || c = '\n' || c = '\r'

def skipBlanks (cs : List Char) : List Char := cs.dropWhile isBlank

/-! ### Strings -/

def hexValue? (c : Char) : Option Nat :=
  if '0' ≤ c ∧ c ≤ '9' then some (c.toNat - '0'.toNat)
  else if 'a' ≤ c ∧ c ≤ 'f' then some (c.toNat - 'a'.toNat + 10)
  else if 'A' ≤ c ∧ c ≤ 'F' then some (c.toNat - 'A'.toNat + 10)
  else none

/-- Four hexadecimal digits. -/
def unit? (a b c d : Char) : Option Nat := do
  return (((← hexValue? a) * 16 + (← hexValue? b)) * 16 + (← hexValue? c)) * 16 + (← hexValue? d)

def isHighSurrogate (u : Nat) : Bool := 0xD800 ≤ u && u < 0xDC00

def isLowSurrogate (u : Nat) : Bool := 0xDC00 ≤ u && u < 0xE000

def simpleEscape? : Char → Option Char
  | '"' => some '"'
  | '\\' => some '\\'
  | '/' => some '/'
  | 'b' => some '\x08'
  | 'f' => some '\x0c'
  | 'n' => some '\n'
  | 'r' => some '\r'
  | 't' => some '\t'
  | _ => none

/-- Reads a string up to its closing quote; `acc` holds the characters read, last first. -/
def stringTail (acc : List Char) : List Char → Option (String × List Char)
  | [] => none
  | '"' :: rest => some (String.ofList acc.reverse, rest)
  | '\\' :: 'u' :: a :: b :: c :: d :: rest =>
    match unit? a b c d with
    | none => none
    | some u =>
      if isHighSurrogate u then
        match rest with
        | '\\' :: 'u' :: a' :: b' :: c' :: d' :: rest' =>
          match unit? a' b' c' d' with
          | none => none
          | some l =>
            if isLowSurrogate l then
              stringTail (Char.ofNat (0x10000 + (u - 0xD800) * 0x400 + (l - 0xDC00)) :: acc) rest'
            else none
        | _ => none
      else if isLowSurrogate u then none
      else stringTail (Char.ofNat u :: acc) rest
  | '\\' :: e :: rest =>
    match simpleEscape? e with
    | some c => stringTail (c :: acc) rest
    | none => none
  | c :: rest => if c.toNat < 0x20 ∨ c = '\\' then none else stringTail (c :: acc) rest

/-! ### Numbers -/

/-- A number as written. -/
structure Literal where
  negative : Bool
  whole : List Char
  fraction : List Char
  exponent : Option (Bool × List Char)

/-- Appends digits to a significand as long as it fits 64 bits, and returns the digits left over. -/
def absorb (significand : Nat) : List Char → Nat × List Char
  | [] => (significand, [])
  | d :: rest =>
    let next := significand * 10 + Digits.digitValue d
    if next < 0x10000000000000000 then absorb next rest else (significand, d :: rest)

def float? (negative : Bool) (significand : Nat) (exp : Int) : Option Json :=
  (Binary64.ofScientific negative significand exp).bind ofBinary64?

/-- The number a literal stands for. An integer that fits 64 bits stays one; of other numbers only
the leading digits that fit an unsigned word count, and a part of the exponent beyond 32 bits makes
the number zero or too large. -/
def Literal.value? (l : Literal) : Option Json :=
  let (significand, dropped) := absorb 0 l.whole
  if l.fraction.isEmpty ∧ l.exponent.isNone ∧ dropped.isEmpty then
    if !l.negative then (JsonInt.ofInt? significand).map .int
    else if 0 < significand ∧ significand ≤ 0x8000000000000000 then
      (JsonInt.ofInt? (-(significand : Int))).map .int
    else ofBinary64? (Binary64.ofRatio true significand 1)
  else
    let (full, ignored) := absorb significand l.fraction
    let exp : Int := (dropped.length : Int) - ((l.fraction.length - ignored.length : Nat) : Int)
    match l.exponent with
    | none => float? l.negative full exp
    | some (negative, digits) =>
      let e := Digits.value digits
      if e < 0x80000000 then float? l.negative full (if negative then exp - e else exp + e)
      else if full ≠ 0 ∧ !negative then none
      else float? l.negative 0 0

/-- Reads a fraction, if there is one: a point and at least one digit. -/
def fraction? (cs : List Char) : Option (List Char × List Char) :=
  match cs with
  | '.' :: rest =>
    let digits := rest.takeWhile Digits.isDigit
    if digits.isEmpty then none else some (digits, rest.dropWhile Digits.isDigit)
  | _ => some ([], cs)

/-- Reads an exponent, if there is one: the mark, an optional sign and at least one digit. -/
def exponent? (cs : List Char) : Option (Option (Bool × List Char) × List Char) :=
  match cs with
  | 'e' :: rest => after rest
  | 'E' :: rest => after rest
  | _ => some (none, cs)
where
  after (cs : List Char) : Option (Option (Bool × List Char) × List Char) :=
    let (negative, body) := match cs with
      | '-' :: rest => (true, rest)
      | '+' :: rest => (false, rest)
      | _ => (false, cs)
    let digits := body.takeWhile Digits.isDigit
    if digits.isEmpty then none
    else some (some (negative, digits), body.dropWhile Digits.isDigit)

def number (cs : List Char) : Option (Json × List Char) := do
  let (negative, body) := match cs with
    | '-' :: rest => (true, rest)
    | _ => (false, cs)
  let whole := body.takeWhile Digits.isDigit
  if whole.isEmpty ∨ (whole.head? = some '0' ∧ 1 < whole.length) then none
  else
    let (fraction, rest) ← fraction? (body.dropWhile Digits.isDigit)
    let (exponent, rest) ← exponent? rest
    let value ← Literal.value? { negative, whole, fraction, exponent }
    return (value, rest)

/-! ### Values -/

mutual

/-- Reads one value that may hold `depth` further levels. Each call reads a character, so `fuel` may
be the length of the text. -/
def value : Nat → Nat → List Char → Option (Json × List Char)
  | 0, _, _ => none
  | fuel + 1, depth, cs =>
    match skipBlanks cs with
    | 'n' :: 'u' :: 'l' :: 'l' :: rest => some (.null, rest)
    | 't' :: 'r' :: 'u' :: 'e' :: rest => some (.bool true, rest)
    | 'f' :: 'a' :: 'l' :: 's' :: 'e' :: rest => some (.bool false, rest)
    | '"' :: rest => (stringTail [] rest).map fun (s, rest) => (.str s, rest)
    | '[' :: rest =>
      match depth with
      | 0 => none
      | depth + 1 =>
        match skipBlanks rest with
        | ']' :: rest => some (.arr [], rest)
        | rest => (items fuel depth rest).map fun (js, rest) => (.arr js, rest)
    | '{' :: rest =>
      match depth with
      | 0 => none
      | depth + 1 =>
        match skipBlanks rest with
        | '}' :: rest => some (.obj [], rest)
        | rest => (members fuel depth rest).map fun (ms, rest) => (.obj ms, rest)
    | rest => number rest

/-- The items of an array, up to its closing bracket. -/
def items : Nat → Nat → List Char → Option (List Json × List Char)
  | 0, _, _ => none
  | fuel + 1, depth, cs =>
    match value fuel depth cs with
    | none => none
    | some (j, rest) =>
      match skipBlanks rest with
      | ']' :: rest => some ([j], rest)
      | ',' :: rest => (items fuel depth rest).map fun (js, rest) => (j :: js, rest)
      | _ => none

/-- The members of an object, up to its closing brace. -/
def members : Nat → Nat → List Char → Option (List (String × Json) × List Char)
  | 0, _, _ => none
  | fuel + 1, depth, cs =>
    match skipBlanks cs with
    | '"' :: rest =>
      match stringTail [] rest with
      | none => none
      | some (key, rest) =>
        match skipBlanks rest with
        | ':' :: rest =>
          match value fuel depth rest with
          | none => none
          | some (j, rest) =>
            match skipBlanks rest with
            | '}' :: rest => some ([(key, j)], rest)
            | ',' :: rest =>
              (members fuel depth rest).map fun (ms, rest) => ((key, j) :: ms, rest)
            | _ => none
        | _ => none
    | _ => none

end

end Parser

/-- The levels of nesting that text may have. -/
def maxDepth : Nat := 127

/-- Reads a whole text as one value, with objects as written and any nesting up to `depth`. -/
def readWithin? (depth : Nat) (text : String) : Option Json :=
  let cs := text.toList
  match Parser.value (2 * cs.length + 1) depth cs with
  | some (j, rest) => if (Parser.skipBlanks rest).isEmpty then some j else none
  | none => none

/-- Reads a whole text as one value, with objects as written. -/
def read? (text : String) : Option Json := readWithin? maxDepth text

/-- Reads a whole text as one value, with the members of objects in order of their keys. -/
def parse? (text : String) : Option Json := (read? text).map canonical

end DriverHub.Json
