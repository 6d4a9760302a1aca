import DriverHub.Text.Split

/-! Texts as lines. A line keeps the characters that end it, so the lines of a text joined are the
text. -/

namespace DriverHub.Text

/-- Characters after which a new line begins. -/
def endsLine (c : Char) : Bool :=
  let n := c.toNat
  (0xA ≤ n && n ≤ 0xD) || n = 0x85 || n = 0x2028 || n = 0x2029

/-- The lines of a text. A carriage return and the line feed after it end one line together. -/
def lines : List Char → List (List Char)
  | [] => []
  | '\r' :: '\n' :: rest => ['\r', '\n'] :: lines rest
  | c :: rest =>
    if endsLine c then [c] :: lines rest
    else
      match lines rest with
      | [] => [[c]]
      | line :: more => (c :: line) :: more

/-- The lines of a text without their ends; only line feeds, with or without a carriage return before
them, end a line here. -/
def rows : List Char → List (List Char)
  | [] => []
  | '\r' :: '\n' :: rest => [] :: rows rest
  | '\n' :: rest => [] :: rows rest
  | c :: rest =>
    match rows rest with
    | [] => [[c]]
    | row :: more => (c :: row) :: more

/-- A line and where it stands in its text. -/
structure Line where
  /-- The number of the line; the first has number one. -/
  number : Nat
  /-- The characters before the line. -/
  start : Nat
  text : List Char

/-- The line of the character at `offset`, or the last line for an offset behind it. -/
def lineAt (offset : Nat) (cs : List Char) : Line := go 1 0 (lines cs)
where
  go (number start : Nat) : List (List Char) → Line
    | [] => ⟨number, start, []⟩
    | [text] => ⟨number, start, text⟩
    | text :: rest =>
      if offset < start + text.length then ⟨number, start, text⟩
      else go (number + 1) (start + text.length) rest

/-- A text without the blanks at its end. -/
def trimEnd (cs : List Char) : List Char := (cs.reverse.dropWhile isBlank).reverse

end DriverHub.Text
