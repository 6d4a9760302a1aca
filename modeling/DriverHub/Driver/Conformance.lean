import DriverHub.Driver.Capability
import DriverHub.Script.Program

/-! Whether a singleton implements its template: it lists only capabilities that the template offers
and defines every method that these and the base capability require. -/

namespace DriverHub

namespace Template

def notImplemented (template : Template) (singleton : Singleton) : Diagnostic :=
  .error ("Template `" ++ template.name ++ "` is not implemented for this Singleton") singleton.span
    ["It can be implemented like this: `impl " ++ template.name ++ " for " ++ singleton.ident ++
      " with \x7b " ++ Capability.base.name ++ " \x7d \x7b ... \x7d`"]

def notOffered (template : Template) (capability : String) (span : Span) : Diagnostic :=
  .error ("Capability `" ++ capability ++ "` is not defined for template `" ++ template.name ++ "`")
    span ["Available capabilities: " ++ String.intercalate ", " (template.offered.map (·.name))]

def methodMissing (template : Template) (capability : Capability) (method : String)
    (span : Span) : Diagnostic :=
  .error ("Method `" ++ method ++ "` is required by capability `" ++ capability.name ++
    "` of template `" ++ template.name ++ "`") span

/-- The capability of that name, if the template offers it. -/
def offered? (template : Template) (name : String) : Option Capability :=
  (Capability.ofName? name).filter (· ∈ template.offered)

/-- The capabilities of an implementation: the base and those listed that are offered. -/
def provided (template : Template) (impl : TemplateImpl) : List Capability :=
  Capability.setOf (.base :: impl.capabilities.filterMap template.offered?)

/-- The listed names that are no capability of the template. -/
def unknownNames (template : Template) (impl : TemplateImpl) : List String :=
  impl.capabilities.filter fun name => (template.offered? name).isNone

/-- The required methods that the implementation lacks, with the capability that requires each. -/
def missingMethods (template : Template) (impl : TemplateImpl) : List (Capability × String) :=
  (template.provided impl).flatMap fun capability =>
    ((template.required capability).filter fun m => (impl.method? m).isNone).map (capability, ·)

/-- The capabilities that a singleton provides, or everything that is wrong with it. -/
def check (template : Template) (singleton : Singleton) :
    Except (List Diagnostic) (List Capability) :=
  match singleton.implementation? template.name with
  | none => .error [template.notImplemented singleton]
  | some impl =>
    let faults :=
      (template.unknownNames impl).map (template.notOffered · impl.span) ++
        (template.missingMethods impl).map fun (c, m) => template.methodMissing c m impl.span
    if faults.isEmpty then .ok (template.provided impl) else .error faults

end Template

end DriverHub
