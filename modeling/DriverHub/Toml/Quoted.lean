import DriverHub.Toml.Basic

/-! Quoted text in TOML: basic strings with escapes and literal strings without, each on one line or,
under tripled quotes, on several. -/

namespace DriverHub.Toml.Quoted

/-- Characters that stand neither in strings nor in comments. -/
def isControl (c : Char) : Bool := (c.toNat < 0x20 && c ≠ '\t') || c = '\x7f'

/-- Whether a body holds no control characters; line ends are right in `long` strings only. -/
def isClean (long : Bool) : List Char → Bool
  | [] => true
  | '\r' :: '\n' :: rest => long && isClean long rest
  | '\n' :: rest => long && isClean long rest
  | c :: rest => !isControl c && isClean long rest

/-- Cuts a text after the closing quote: the body, and what follows. Of the quotes that close a long
string, up to two before the last three belong to the body. A character after a backslash closes
nothing if `escapes`. -/
def close (quote : Char) (escapes long : Bool) : List Char → Option (List Char × List Char)
  | [] => none
  | c :: rest =>
    if c = quote ∧ !long then some ([], rest)
    else if c = quote ∧ rest.take 2 = [quote, quote] then
      let extra := ((rest.drop 2).takeWhile (· = quote)).take 2
      some (extra, rest.drop (2 + extra.length))
    else if c = '\\' ∧ escapes then
      match rest with
      | [] => none
      | d :: rest => (close quote escapes long rest).map fun (body, rest) => (c :: d :: body, rest)
    else (close quote escapes long rest).map fun (body, rest) => (c :: body, rest)

def hexValue? (c : Char) : Option Nat :=
  if '0' ≤ c ∧ c ≤ '9' then some (c.toNat - '0'.toNat)
  else if 'a' ≤ c ∧ c ≤ 'f' then some (c.toNat - 'a'.toNat + 10)
  else if 'A' ≤ c ∧ c ≤ 'F' then some (c.toNat - 'A'.toNat + 10)
  else none

/-- The character with a code in hexadecimal digits; surrogates are no characters. -/
def coded? (digits : List Char) : Option Char := do
  let code ← digits.foldlM (fun n c => (hexValue? c).map (16 * n + ·)) 0
  if code.isValidChar then some (Char.ofNat code) else none

def escape? : Char → Option Char
  | '"' => some '"'
  | '\\' => some '\\'
  | 'b' => some '\x08'
  | 't' => some '\t'
  | 'n' => some '\n'
  | 'f' => some '\x0c'
  | 'r' => some '\r'
  | 'e' => some '\x1b'
  | _ => none

def isGap (c : Char) : Bool := c = ' ' || c = '\t' || c = '\r' || c = '\n'

/-- Whether only blanks follow on the line. -/
def endsHere (cs : List Char) : Bool :=
  match cs.dropWhile fun c => c = ' ' ∨ c = '\t' with
  | '\n' :: _ => true
  | '\r' :: '\n' :: _ => true
  | _ => false

/-- Resolves the escapes in a body. In long strings a backslash at the end of a line takes away all
blanks and line ends that follow; `gap` holds while they are passed over. -/
def unescape (long : Bool) : Bool → List Char → Option (List Char)
  | _, [] => some []
  | gap, c :: rest =>
    if gap && isGap c then unescape long true rest
    else if c ≠ '\\' then (unescape long false rest).map (c :: ·)
    else if long && endsHere rest then unescape long true rest
    else
      match rest with
      | 'x' :: a :: b :: rest => do return (← coded? [a, b]) :: (← unescape long false rest)
      | 'u' :: a :: b :: c :: d :: rest => do
        return (← coded? [a, b, c, d]) :: (← unescape long false rest)
      | 'U' :: a :: b :: c :: d :: e :: f :: g :: h :: rest => do
        return (← coded? [a, b, c, d, e, f, g, h]) :: (← unescape long false rest)
      | c :: rest => do return (← escape? c) :: (← unescape long false rest)
      | [] => none

/-- A line end right after the opening quotes of a long string is no part of it. -/
def dropFirstLineEnd : List Char → List Char
  | '\r' :: '\n' :: rest => rest
  | '\n' :: rest => rest
  | cs => cs

/-- Reads a string whose opening quotes are passed. -/
def read? (quote : Char) (long : Bool) (cs : List Char) : Option (String × List Char) := do
  let escapes := quote = '"'
  let (body, rest) ← close quote escapes long (if long then dropFirstLineEnd cs else cs)
  if isClean long body then
    let text ← if escapes then unescape long false body else some body
    return (String.ofList text, rest)
  else none

end DriverHub.Toml.Quoted
