import DriverHub.Report.Layout
import DriverHub.Script.Diagnostic

/-! Diagnostics as reports on the source text of a script. -/

namespace DriverHub

def Severity.reportKind : Severity → ReportKind
  | error => .error
  | warning => .warning
  | hint => .advice

/-- A diagnostic as a report. A span that leaves the source is cut at its end. -/
def Diagnostic.report (source filename : String) (d : Diagnostic) : Report where
  kind := d.severity.reportKind
  headline := d.message
  quotes := [{ file := filename, text := source, message := d.message
               range := TextRange.within source.length ⟨d.span.start, d.span.stop⟩ }]
  notes := d.notes

def reportDiagnostics (source filename : String) (diagnostics : List Diagnostic) : String :=
  String.join (diagnostics.map fun d => (d.report source filename).text)

end DriverHub
