import DriverHub.Number.Digits
import DriverHub.Report.Basic
import DriverHub.Text.Lines

/-! How a report looks: the headline, then each quoted line under the name of its file, with the
quoted stretch underlined and its message hanging from the middle of the underline. A stretch of
several lines is held by a bracket at the left, and its message hangs from the end. Columns are right
for characters of width one and for tabs. -/

namespace DriverHub

namespace Quote

def first (q : Quote) : Text.Line := Text.lineAt q.range.start q.text.toList

def last (q : Quote) : Text.Line :=
  if q.range.start < q.range.stop then Text.lineAt (q.range.stop - 1) q.text.toList else q.first

/-- Whether the stretch ends on a later line than it starts. -/
def isLong (q : Quote) : Bool := q.first.number < q.last.number

/-- The file, line and column where the stretch starts. -/
def location (q : Quote) : String :=
  q.file ++ ":" ++ Digits.natText q.first.number ++ ":" ++
    Digits.natText (q.range.start - q.first.start + 1)

end Quote

namespace Layout

def blanks (n : Nat) : String := "".pushn ' ' n

def dashes (n : Nat) : String := "".pushn '─' n

/-- The columns that the character at a column takes: a tab reaches to the next multiple of four. -/
def width (column : Nat) : Char → Nat
  | '\t' => 4 - column % 4
  | _ => 1

/-- The columns that a place of a line takes; there may be no character. -/
def widthAt (cs : List Char) (column : Nat) : Nat := (cs[column]?.map (width column)).getD 1

/-- Draws a mark over all columns of a place; `tail` fills those after the first. -/
def mark (line : List Char) (column : Nat) (head tail : Char) : String :=
  (String.singleton head).pushn tail (widthAt line column - 1)

def marks (line : List Char) (columns : Nat) (glyphs : Nat → Char × Char) : String :=
  String.join ((List.range columns).map fun i => mark line i (glyphs i).1 (glyphs i).2)

/-- The text of a line, with tabs and other blanks drawn as spaces. -/
def shown (line : List Char) : String :=
  let text := Text.trimEnd line
  marks text text.length fun i =>
    match text[i]? with
    | some c => if Text.isBlank c then (' ', ' ') else (c, ' ')
    | none => (' ', ' ')

/-- The left edge of a report whose line numbers have up to `digits` digits. -/
structure Gutter where
  digits : Nat

namespace Gutter

def blank (g : Gutter) : String := blanks (g.digits + 2)

def bar (g : Gutter) : String := g.blank ++ "│"

def numbered (g : Gutter) (number : Nat) : String :=
  let text := Digits.natText number
  " " ++ blanks (g.digits - text.length) ++ text ++ " │ "

/-- A stretch within one line. -/
def short (g : Gutter) (q : Quote) : List String :=
  let line := q.first
  let start := q.range.start - line.start
  let stop := q.range.stop - line.start
  let middle := (q.range.start + q.range.stop) / 2 - line.start
  let inside (i : Nat) : Bool := start ≤ i && i < stop
  [g.numbered line.number ++ shown line.text,
    g.bar ++ " " ++ marks line.text (stop + 2) fun i =>
      if i = middle then if inside i then ('┬', '─') else ('│', ' ')
      else if inside i then ('─', '─') else (' ', ' '),
    g.bar ++ " " ++ (marks line.text (stop + 2) fun i =>
      if i = middle then ('╰', '─') else if middle < i then ('─', '─') else (' ', ' ')) ++
      " " ++ q.message]

/-- A stretch of several lines; lines between the first and the last are left out. -/
def long (g : Gutter) (q : Quote) : List String :=
  let reach := q.last.text.length + 2
  [g.numbered q.first.number ++ "╭─▶ " ++ shown q.first.text] ++
    (if q.first.number + 1 < q.last.number then [g.blank ++ "┆ ┆   "] else []) ++
    [g.numbered q.last.number ++ "├─▶ " ++ shown q.last.text,
      g.bar ++ " │   " ++ marks q.last.text reach fun _ => (' ', ' '),
      g.bar ++ " ╰───" ++ (marks q.last.text reach fun _ => ('─', '─')) ++ " " ++ q.message]

def quoted (g : Gutter) (q : Quote) : List String :=
  if q.isLong then g.long q else g.short q

/-- A note; its further lines are indented to the first. -/
def note (g : Gutter) (title text : String) : List String :=
  match Text.rows text.toList with
  | [] => []
  | head :: rest =>
    (g.bar ++ " " ++ title ++ ": " ++ String.ofList head) ::
      rest.map fun line => g.bar ++ " " ++ blanks (title.length + 2) ++ String.ofList line

/-- The notes of a report, each after an empty line. Several notes are numbered. -/
def notes (g : Gutter) (isLong : Bool) (texts : List String) : List String :=
  let blank := g.bar ++ " " ++ (if isLong then blanks 4 else "")
  (texts.zipIdx 1).flatMap fun (text, i) =>
    blank :: g.note (if texts.length = 1 then "Note" else "Note " ++ Digits.natText i) text

end Gutter

end Layout

namespace Report

def gutter (r : Report) : Layout.Gutter where
  digits := (Digits.ofNat ((r.quotes.map (·.last.number)).foldl max 0)).length

/-- The quotes one below the other; the notes stand below the last one. -/
def sections (r : Report) (corner : String) : List Quote → List String
  | [] => []
  | q :: rest =>
    let g := r.gutter
    [g.blank ++ corner ++ "─[ " ++ q.location ++ " ]", g.bar] ++ g.quoted q ++
      (if rest.isEmpty then g.notes q.isLong r.notes ++ [Layout.dashes (g.digits + 2) ++ "╯"]
      else g.bar :: r.sections "├" rest)

def text (r : Report) : String :=
  String.join (((r.kind.name ++ ": " ++ r.headline) :: r.sections "╭" r.quotes).map (· ++ "\n"))

end Report

end DriverHub
