import DriverHub.Json.Record
import DriverHub.Script.Diagnostic

/-! Diagnostics as JSON records. -/

namespace DriverHub

def Span.toJson (s : Span) : Json :=
  .obj [("filename", .str s.filename), ("start", .ofUInt64 (UInt64.ofNat s.start)),
    ("end", .ofUInt64 (UInt64.ofNat s.stop))]

def Span.ofJson? (j : Json) : Option Span := do
  match ← j.recordFields? ["filename", "start", "end"] with
  | [filename, start, stop] =>
    return { filename := ← (← filename).str?, start := ← (← start).nat?, stop := ← (← stop).nat? }
  | _ => none

def Severity.ofName? : String → Option Severity
  | "error" => some .error
  | "warning" => some .warning
  | "hint" => some .hint
  | _ => none

def Phase.toJson : Phase → Json
  | syntactic => .obj [("phase", .str "syntax")]
  | semantic => .obj [("phase", .str "semantic")]
  | runtime interrupt => .obj [("phase", .str "runtime"), ("kind", .str interrupt)]

def Phase.ofJson? (j : Json) : Option Phase := do
  let (name, rest) ← j.tagged? "phase"
  match name with
  | "syntax" => bare rest .syntactic
  | "semantic" => bare rest .semantic
  | "runtime" =>
    match ← rest.recordFields? ["kind"] with
    | [kind] => return .runtime (← (← kind).str?)
    | _ => none
  | _ => none
where
  bare (rest : Json) (phase : Phase) : Option Phase :=
    (rest.recordFields? []).map fun _ => phase

namespace Diagnostic

def toJson (d : Diagnostic) : Json :=
  let notes := if d.notes.isEmpty then [] else [("notes", Json.arr (d.notes.map .str))]
  .obj ([("severity", .str d.severity.name), ("kind", d.phase.toJson), ("message", .str d.message)] ++
    notes ++ [("span", d.span.toJson)])

def ofJson? (j : Json) : Option Diagnostic := do
  match ← j.recordFields? ["severity", "kind", "message", "notes", "span"] with
  | [severity, kind, message, notes, span] =>
    let notes ← match notes with
      | none => some []
      | some notes => notes.listOf? Json.str?
    return { severity := ← Severity.ofName? (← (← severity).choice?)
             phase := ← Phase.ofJson? (← kind)
             message := ← (← message).str?
             notes
             span := ← Span.ofJson? (← span) }
  | _ => none

end Diagnostic

end DriverHub
