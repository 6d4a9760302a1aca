import DriverHub.Script.Diagnostic
import DriverHub.Script.Type

/-! Analyzed programs: the declarations of a script that the hub looks at. -/

namespace DriverHub

structure Method where
  name : String
  span : Span := {}
deriving DecidableEq

/-- The implementation of a template by a singleton, with the capabilities it lists. -/
structure TemplateImpl where
  template : String
  capabilities : List String
  methods : List Method
  span : Span := {}

structure Singleton where
  ident : String
  type : ScriptType
  implementations : List TemplateImpl
  span : Span := {}

/-- Says that `callback` listens, for each device, on the topics that `topics` returns. -/
structure AnnotatedCallback where
  callback : String
  topics : String
deriving DecidableEq

structure Program where
  id : String := ""
  singletons : List Singleton := []
  triggers : List AnnotatedCallback := []
  span : Span := {}

def TemplateImpl.method? (impl : TemplateImpl) (name : String) : Option Method :=
  impl.methods.find? (·.name = name)

/-- The first implementation of the template. -/
def Singleton.implementation? (singleton : Singleton) (template : String) : Option TemplateImpl :=
  singleton.implementations.find? (·.template = template)

namespace Program

def singleton? (program : Program) (ident : String) : Option Singleton :=
  program.singletons.find? (·.ident = ident)

/-- The place of the first method of that name in any implementation of any singleton. -/
def methodSpan? (program : Program) (name : String) : Option Span :=
  ((program.singletons.flatMap (·.implementations)).findSome? (·.method? name)).map (·.span)

/-- The place of a method, or of the whole program where no method has that name. -/
def spanOf (program : Program) (name : String) : Span :=
  (program.methodSpan? name).getD program.span

end Program

end DriverHub
