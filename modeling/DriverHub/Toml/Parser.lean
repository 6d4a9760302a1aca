import DriverHub.Toml.Quoted
import DriverHub.Toml.Scalar

/-! Reading TOML 1.1 documents. Places are counted in bytes from the start of the text. -/

namespace DriverHub.Toml

namespace Parser

/-- The bytes of a text. -/
def byteCount (cs : List Char) : Nat := (String.ofList cs).utf8ByteSize

/-- The range between two points of a text of `size` bytes, each given by the text that follows. -/
def rangeOf (size : Nat) (before after : List Char) : TextRange :=
  ⟨size - byteCount before, size - byteCount after⟩

def skipBlanks (cs : List Char) : List Char := cs.dropWhile fun c => c = ' ' ∨ c = '\t'

/-- Passes over blanks, line ends and comments. -/
def skipSpace (inComment : Bool) : List Char → Option (List Char)
  | [] => some []
  | '\n' :: rest => skipSpace false rest
  | '\r' :: '\n' :: rest => skipSpace false rest
  | c :: rest =>
    if inComment then if Quoted.isControl c then none else skipSpace true rest
    else if c = '#' then skipSpace true rest
    else if c = ' ' ∨ c = '\t' then skipSpace false rest
    else some (c :: rest)

/-- Passes over the rest of a line, which holds nothing but a comment. -/
def lineEnd (cs : List Char) : Option (List Char) :=
  match skipBlanks cs with
  | [] => some []
  | '\n' :: rest => some rest
  | '\r' :: '\n' :: rest => some rest
  | '#' :: rest => skipSpace true rest
  | _ => none

/-! ### Keys -/

def isBare (c : Char) : Bool := c.isAlphanum || c = '_' || c = '-'

def name? (cs : List Char) : Option (String × List Char) :=
  match cs with
  | '"' :: rest => Quoted.read? '"' false rest
  | '\'' :: rest => Quoted.read? '\'' false rest
  | cs =>
    let bare := cs.takeWhile isBare
    if bare.isEmpty then none else some (String.ofList bare, cs.dropWhile isBare)

/-- Reads a key: the names before its last one, and the last one. Each name is at least one character,
so `fuel` may be the length of the text. -/
def key (size : Nat) : Nat → List Char → Option (List Key × Key × List Char)
  | 0, _ => none
  | fuel + 1, cs => do
    let (name, rest) ← name? cs
    let k : Key := ⟨name, rangeOf size cs rest⟩
    match skipBlanks rest with
    | '.' :: rest =>
      let (path, last, rest) ← key size fuel (skipBlanks rest)
      return (k :: path, last, rest)
    | rest => return ([], k, rest)

/-! ### Values -/

mutual

/-- Reads one value that may hold `depth` further levels. Each call reads a character, so `fuel` may
be the length of the text. -/
def value (size : Nat) : Nat → Nat → List Char → Option (Toml × List Char)
  | 0, _, _ => none
  | fuel + 1, depth, cs =>
    match cs with
    | '"' :: '"' :: '"' :: rest => (Quoted.read? '"' true rest).map fun (s, rest) => (.str s, rest)
    | '"' :: rest => (Quoted.read? '"' false rest).map fun (s, rest) => (.str s, rest)
    | '\'' :: '\'' :: '\'' :: rest =>
      (Quoted.read? '\'' true rest).map fun (s, rest) => (.str s, rest)
    | '\'' :: rest => (Quoted.read? '\'' false rest).map fun (s, rest) => (.str s, rest)
    | '[' :: rest =>
      match depth with
      | 0 => none
      | depth + 1 => (items size fuel depth rest).map fun (xs, rest) => (.array xs, rest)
    | '{' :: rest =>
      match depth with
      | 0 => none
      | depth + 1 => (members size fuel depth ⟨.inline, []⟩ rest).map fun (t, rest) => (t.toml, rest)
    | cs => Scalar.read? cs

/-- The items of an array, up to its closing bracket. -/
def items (size : Nat) : Nat → Nat → List Char → Option (List (TextRange × Toml) × List Char)
  | 0, _, _ => none
  | fuel + 1, depth, cs => do
    match ← skipSpace false cs with
    | ']' :: rest => return ([], rest)
    | start =>
      let (v, stop) ← value size fuel depth start
      let item := (rangeOf size start stop, v)
      match ← skipSpace false stop with
      | ']' :: rest => return ([item], rest)
      | ',' :: rest =>
        let (more, rest) ← items size fuel depth rest
        return (item :: more, rest)
      | _ => none

/-- The members of a table in braces, up to the closing one, added to `t`. -/
def members (size : Nat) : Nat → Nat → Table → List Char → Option (Table × List Char)
  | 0, _, _, _ => none
  | fuel + 1, depth, t, cs => do
    match ← skipSpace false cs with
    | '}' :: rest => return (t, rest)
    | cs =>
      let (path, last, rest) ← key size cs.length cs
      let start := skipBlanks (← Scalar.expect '=' rest)
      let (v, stop) ← value size fuel depth start
      let t ← t.set path last (rangeOf size start stop) v
      match ← skipSpace false stop with
      | '}' :: rest => return (t, rest)
      | ',' :: rest => members size fuel depth t rest
      | _ => none

end

/-- The levels of nesting that a value may have. -/
def maxDepth : Nat := 80

/-! ### Documents -/

/-- A value under a key. -/
structure Assignment where
  path : List Key
  key : Key
  range : TextRange
  value : Toml

/-- The line that starts a table. -/
structure Header where
  /-- Whether the brackets are doubled. -/
  doubled : Bool
  path : List Key
  key : Key
  range : TextRange

inductive Statement where
  | assignment (a : Assignment)
  | header (h : Header)

def header (size : Nat) (cs : List Char) : Option (Header × List Char) :=
  match cs with
  | '[' :: '[' :: rest => do
    let (path, key, rest) ← key size rest.length (skipBlanks rest)
    let stop ← Scalar.expect ']' (← Scalar.expect ']' rest)
    return (⟨true, path, key, rangeOf size cs stop⟩, stop)
  | '[' :: rest => do
    let (path, key, rest) ← key size rest.length (skipBlanks rest)
    let stop ← Scalar.expect ']' rest
    return (⟨false, path, key, rangeOf size cs stop⟩, stop)
  | _ => none

def assignment (size : Nat) (cs : List Char) : Option (Assignment × List Char) := do
  let (path, key, rest) ← key size cs.length cs
  let start := skipBlanks (← Scalar.expect '=' rest)
  let (value, stop) ← value size (2 * start.length + 1) maxDepth start
  return (⟨path, key, rangeOf size start stop, value⟩, stop)

def statement (size : Nat) (cs : List Char) : Option (Statement × List Char) :=
  match cs with
  | '[' :: _ => (header size cs).map fun (h, rest) => (.header h, rest)
  | _ => (assignment size cs).map fun (a, rest) => (.assignment a, rest)

/-- Reads the statements of a document, each of which ends its line. Each call reads a character, so
`fuel` may be more than the length of the text. -/
def statements (size : Nat) : Nat → List Char → Option (List Statement)
  | 0, _ => none
  | fuel + 1, cs => do
    match ← skipSpace false cs with
    | [] => return []
    | cs =>
      let (s, rest) ← statement size cs
      return s :: (← statements size fuel (← lineEnd rest))

/-- The assignments before the first header, and each header with those below it. -/
def sections : List Statement → List Assignment × List (Header × List Assignment)
  | [] => ([], [])
  | .assignment a :: rest => (a :: (sections rest).1, (sections rest).2)
  | .header h :: rest => ([], (h, (sections rest).1) :: (sections rest).2)

def fill (assignments : List Assignment) (t : Table) : Option Table :=
  assignments.foldlM (fun t a => t.set a.path a.key a.range a.value) t

def addSection (t : Table) (entry : Header × List Assignment) : Option Table :=
  let h := entry.1
  if h.doubled then t.appendTable h.path h.key h.range (fill entry.2)
  else t.openTable h.path h.key h.range (fill entry.2)

def dropMark : List Char → List Char
  | '\uFEFF' :: rest => rest
  | cs => cs

end Parser

/-- Reads a document; a byte order mark at its start is passed over. -/
def Table.parse? (text : String) : Option Table := do
  let cs := Parser.dropMark text.toList
  let (top, rest) := Parser.sections (← Parser.statements text.utf8ByteSize (cs.length + 1) cs)
  rest.foldlM Parser.addSection (← Parser.fill top ⟨.header, []⟩)

end DriverHub.Toml
