import DriverHub.Proofs.Driver.Conformance
import DriverHub.Proofs.Schema.Lower

/-! Which programs are drivers, and what is said about the others. What is wrong with a singleton is
told by rules that know nothing of how it is checked; a program is a driver just if they find nothing
wrong with either singleton, and otherwise it is refused with all that they find. -/

namespace DriverHub

/-! ### The rules -/

def TemplateImpl.Has (impl : TemplateImpl) (name : String) : Prop :=
  ∃ method ∈ impl.methods, method.name = name

instance (impl : TemplateImpl) (name : String) : Decidable (impl.Has name) :=
  inferInstanceAs (Decidable (∃ method ∈ impl.methods, method.name = name))

namespace Template

/-- A capability of that name can be listed. -/
def Offers (template : Template) (name : String) : Prop :=
  ∃ capability ∈ template.offered, capability.name = name

instance (template : Template) : DecidablePred template.Offers := fun name =>
  inferInstanceAs (Decidable (∃ capability ∈ template.offered, capability.name = name))

/-- The base capability, and each one that is offered and listed. -/
def Accepts (template : Template) (impl : TemplateImpl) (capability : Capability) : Prop :=
  capability = .base ∨ capability ∈ template.offered ∧ capability.name ∈ impl.capabilities

instance (template : Template) (impl : TemplateImpl) : DecidablePred (template.Accepts impl) :=
  fun capability => inferInstanceAs (Decidable (capability = .base ∨
    capability ∈ template.offered ∧ capability.name ∈ impl.capabilities))

/-- An implementation lists only what is offered, and defines what is required. -/
structure KeptBy (template : Template) (impl : TemplateImpl) : Prop where
  offered : ∀ name ∈ impl.capabilities, template.Offers name
  defined : ∀ capability, template.Accepts impl capability →
    ∀ name ∈ template.required capability, impl.Has name

/-- All methods that a template can require, by capabilities. -/
def demands (template : Template) : List (Capability × String) :=
  Capability.all.flatMap fun capability => (template.required capability).map (capability, ·)

/-- The first implementation of a template. -/
def ImplementedBy (template : Template) (singleton : Singleton) (impl : TemplateImpl) : Prop :=
  IsFirst (·.template = template.name) singleton.implementations impl

/-- What is wrong with the implementation: there is none, or it has names that are not offered and lacks
methods that are required. -/
inductive Breaches (template : Template) (singleton : Singleton) : List Diagnostic → Prop
  | unimplemented (h : ∀ impl ∈ singleton.implementations, impl.template ≠ template.name) :
    Breaches template singleton [template.notImplemented singleton]
  | implemented {impl : TemplateImpl} (first : template.ImplementedBy singleton impl) :
    Breaches template singleton
      ((impl.capabilities.filter fun name => ¬ template.Offers name).map
          (template.notOffered · impl.span) ++
        (template.demands.filter fun (capability, name) =>
            template.Accepts impl capability ∧ ¬ impl.Has name).map
          fun (capability, name) => template.methodMissing capability name impl.span)

end Template

namespace Program

/-- What is wrong with the type of a singleton: a part that is no data, or else that it is no object. -/
inductive Misshapen (singleton : Singleton) : List Diagnostic → Prop
  | fits {fields : List (String × ScriptType)} (object : singleton.type = .object fields)
    (data : singleton.type.IsData) : Misshapen singleton []
  | foreign {culprit : ScriptType} (h : singleton.type.Culprit culprit) :
    Misshapen singleton [culprit.noSchema singleton.span]
  | noObject (data : singleton.type.IsData) (h : ∀ fields, singleton.type ≠ .object fields) :
    Misshapen singleton [notAnObject singleton]

/-- The first singleton of the name that a template asks for. -/
def Declares (program : Program) (template : Template) (singleton : Singleton) : Prop :=
  IsFirst (·.ident = template.singleton) program.singletons singleton

/-- What is wrong with the singleton of a template. -/
inductive Faults (program : Program) (template : Template) : List Diagnostic → Prop
  | undeclared (h : ∀ singleton ∈ program.singletons, singleton.ident ≠ template.singleton) :
    Faults program template [program.singletonMissing template.singleton]
  | declared {singleton : Singleton} {breaches misshapen : List Diagnostic}
    (first : program.Declares template singleton) (implemented : template.Breaches singleton breaches)
    (shaped : Misshapen singleton misshapen) : Faults program template (breaches ++ misshapen)

/-- The singleton of a template is there, implements it and is made of data. -/
def Conforms (program : Program) (template : Template) : Prop :=
  ∃ singleton impl fields, program.Declares template singleton ∧
    template.ImplementedBy singleton impl ∧ template.KeptBy impl ∧
    singleton.type = .object fields ∧ singleton.type.IsData

end Program

/-! ### Capabilities -/

namespace Capability

theorem name_injective {a b : Capability} (h : a.name = b.name) : a = b := by
  cases a <;> cases b <;> first | rfl | exact absurd h (by decide)

theorem mem_all (capability : Capability) : capability ∈ all := by
  cases capability <;> decide

theorem ofName?_eq_some_iff {name : String} {capability : Capability} :
    ofName? name = some capability ↔ capability.name = name := by
  unfold ofName?
  constructor
  · intro h
    simpa using List.find?_some h
  · rintro rfl
    cases capability <;> decide

theorem mem_setOf {capabilities : List Capability} {capability : Capability} :
    capability ∈ setOf capabilities ↔ capability ∈ capabilities := by
  simp [setOf, mem_all]

end Capability

namespace TemplateImpl

theorem isNone_method?_iff {impl : TemplateImpl} {name : String} :
    (impl.method? name).isNone = true ↔ ¬ impl.Has name := by
  simp [method?, Has]

end TemplateImpl

namespace Template

variable {template : Template} {singleton : Singleton} {impl : TemplateImpl}

theorem offered?_eq_some_iff {name : String} {capability : Capability} :
    template.offered? name = some capability ↔
      capability ∈ template.offered ∧ capability.name = name := by
  unfold offered?
  rw [Option.filter_eq_some_iff, Capability.ofName?_eq_some_iff, decide_eq_true_eq, and_comm]

theorem isNone_offered?_iff {name : String} :
    (template.offered? name).isNone = true ↔ ¬ template.Offers name := by
  rw [Option.isNone_iff_eq_none, Option.eq_none_iff_forall_ne_some]
  unfold Offers
  simp only [ne_eq, offered?_eq_some_iff, not_exists]

theorem mem_provided {capability : Capability} :
    capability ∈ template.provided impl ↔ template.Accepts impl capability := by
  unfold provided Accepts
  rw [Capability.mem_setOf, List.mem_cons, List.mem_filterMap]
  simp only [offered?_eq_some_iff]
  constructor
  · rintro (hbase | ⟨name, hlisted, hoffered, rfl⟩)
    · exact .inl hbase
    · exact .inr ⟨hoffered, hlisted⟩
  · rintro (hbase | ⟨hoffered, hlisted⟩)
    · exact .inl hbase
    · exact .inr ⟨_, hlisted, hoffered, rfl⟩

theorem provided_eq : template.provided impl =
    Capability.all.filter fun capability => template.Accepts impl capability := by
  have hfix : template.provided impl =
      Capability.all.filter fun capability => capability ∈ template.provided impl := by
    unfold provided
    conv_rhs => simp only [Capability.mem_setOf]
    rfl
  rw [hfix]
  simp only [mem_provided]

theorem unknownNames_eq : template.unknownNames impl =
    impl.capabilities.filter fun name => ¬ template.Offers name := by
  unfold unknownNames
  refine List.filter_congr fun name _ => ?_
  rw [Bool.eq_iff_iff, isNone_offered?_iff, decide_eq_true_eq]

theorem missingMethods_eq : template.missingMethods impl =
    template.demands.filter fun (capability, name) =>
      template.Accepts impl capability ∧ ¬ impl.Has name := by
  have hone : ∀ capability, ((template.required capability).map (capability, ·)).filter
      (fun (capability, name) => template.Accepts impl capability ∧ ¬ impl.Has name) =
      if template.Accepts impl capability then
        ((template.required capability).filter fun m => (impl.method? m).isNone).map (capability, ·)
      else [] := by
    intro capability
    rw [List.filter_map]
    split
    · next haccepts =>
      refine congrArg _ (List.filter_congr fun name _ => ?_)
      rw [Bool.eq_iff_iff, TemplateImpl.isNone_method?_iff]
      simp [haccepts]
    · next hrefused =>
      rw [List.filter_eq_nil_iff.2 (by simp [hrefused])]
      rfl
  unfold missingMethods demands
  rw [provided_eq, List.filter_flatMap]
  simp only [hone]
  induction Capability.all with
  | nil => rfl
  | cons capability rest ih =>
    rw [List.flatMap_cons, List.filter_cons, ← ih]
    by_cases haccepts : template.Accepts impl capability <;> simp [haccepts]

theorem implementation?_cases (template : Template) (singleton : Singleton) :
    (singleton.implementation? template.name = none ∧
        ∀ impl ∈ singleton.implementations, impl.template ≠ template.name) ∨
      ∃ impl, singleton.implementation? template.name = some impl ∧
        template.ImplementedBy singleton impl := by
  cases h : singleton.implementation? template.name with
  | none => exact .inl ⟨rfl, by simpa [Singleton.implementation?] using h⟩
  | some impl => exact .inr ⟨impl, rfl, find?_eq_some_iff_isFirst.1 h⟩

theorem ImplementedBy.implementation? (h : template.ImplementedBy singleton impl) :
    singleton.implementation? template.name = some impl :=
  find?_eq_some_iff_isFirst.2 h

theorem keptBy_iff : template.KeptBy impl ↔
    template.unknownNames impl = [] ∧ template.missingMethods impl = [] := by
  rw [unknownNames_eq, missingMethods_eq, List.filter_eq_nil_iff, List.filter_eq_nil_iff]
  constructor
  · intro h
    refine ⟨fun name hname => by simpa using h.offered name hname, ?_⟩
    rintro ⟨capability, name⟩ hdemand
    obtain ⟨of, -, hname⟩ := List.mem_flatMap.1 hdemand
    obtain ⟨required, hrequired, heq⟩ := List.mem_map.1 hname
    cases heq
    simpa using fun haccepts => h.defined capability haccepts name hrequired
  · rintro ⟨hoffered, hdefined⟩
    refine ⟨fun name hname => by simpa using hoffered name hname, fun capability haccepts name hname => ?_⟩
    have hdemand : (capability, name) ∈ template.demands :=
      List.mem_flatMap.2 ⟨capability, Capability.mem_all capability, List.mem_map.2 ⟨name, hname, rfl⟩⟩
    simpa [haccepts] using hdefined _ hdemand

end Template

/-! ### Outcomes and what is wrong -/

/-- An outcome tells of just these faults: it fails with them, or there are none and it succeeds. -/
def Tells {α : Type} (faults : List Diagnostic) : Except (List Diagnostic) α → Prop
  | .ok _ => faults = []
  | .error told => told = faults ∧ faults ≠ []

namespace Tells

variable {α : Type} {faults told : List Diagnostic} {outcome : Except (List Diagnostic) α}

theorem exists_ok_iff (h : Tells faults outcome) : (∃ a, outcome = .ok a) ↔ faults = [] := by
  cases outcome with
  | ok a => exact iff_of_true ⟨a, rfl⟩ h
  | error told => exact iff_of_false nofun h.2

theorem eq_error_iff (h : Tells faults outcome) : outcome = .error told ↔ told = faults ∧ faults ≠ [] := by
  cases outcome with
  | ok a => exact iff_of_false nofun fun hne => hne.2 h
  | error found =>
    obtain ⟨rfl, hne⟩ := h
    rw [Except.error.injEq, eq_comm, and_iff_left hne]

end Tells

namespace Template

variable {template : Template} {singleton : Singleton} {faults : List Diagnostic}

theorem exists_breaches (template : Template) (singleton : Singleton) :
    ∃ faults, template.Breaches singleton faults := by
  rcases template.implementation?_cases singleton with ⟨-, hnone⟩ | ⟨impl, -, hfirst⟩
  · exact ⟨_, .unimplemented hnone⟩
  · exact ⟨_, .implemented hfirst⟩

theorem Breaches.tells (h : template.Breaches singleton faults) : Tells faults (template.check singleton) := by
  unfold check
  cases h with
  | unimplemented hnone =>
    have hsearch : singleton.implementation? template.name = none := by
      simpa [Singleton.implementation?] using hnone
    rw [hsearch]
    exact ⟨rfl, List.cons_ne_nil _ _⟩
  | implemented hfirst =>
    rw [hfirst.implementation?, ← unknownNames_eq, ← missingMethods_eq]
    simp only [List.isEmpty_iff]
    split
    · next hnone => exact hnone
    · next hsome => exact ⟨rfl, hsome⟩

theorem breaches_nil_iff : template.Breaches singleton [] ↔
    ∃ impl, template.ImplementedBy singleton impl ∧ template.KeptBy impl := by
  constructor
  · intro h
    generalize hnil : ([] : List Diagnostic) = faults at h
    cases h with
    | unimplemented => cases hnil
    | @implemented impl hfirst =>
      rw [← unknownNames_eq, ← missingMethods_eq, eq_comm, List.append_eq_nil_iff, List.map_eq_nil_iff,
        List.map_eq_nil_iff] at hnil
      exact ⟨impl, hfirst, keptBy_iff.2 hnil⟩
  · rintro ⟨impl, hfirst, hkept⟩
    obtain ⟨hunknown, hmissing⟩ := keptBy_iff.1 hkept
    have hall := Breaches.implemented hfirst
    rw [← unknownNames_eq, ← missingMethods_eq, hunknown, hmissing] at hall
    exact hall

end Template

namespace Program

variable {program : Program} {template : Template} {singleton : Singleton} {faults : List Diagnostic}
  {info : DriverInfo}

theorem exists_misshapen (singleton : Singleton) : ∃ faults, Misshapen singleton faults := by
  cases hculprit : singleton.type.culprit? with
  | some culprit => exact ⟨_, .foreign (ScriptType.culprit?_eq_some_iff.1 hculprit)⟩
  | none =>
    have hdata := ScriptType.culprit?_eq_none_iff.1 hculprit
    by_cases hobject : ∃ fields, singleton.type = .object fields
    · obtain ⟨fields, hfields⟩ := hobject
      exact ⟨_, .fits hfields hdata⟩
    · exact ⟨_, .noObject hdata (not_exists.1 hobject)⟩

theorem misshapen_nil_iff : Misshapen singleton [] ↔
    ∃ fields, singleton.type = .object fields ∧ singleton.type.IsData := by
  constructor
  · rintro ⟨hobject, hdata⟩
    exact ⟨_, hobject, hdata⟩
  · rintro ⟨fields, hobject, hdata⟩
    exact .fits hobject hdata

/-- The schema of a type that fits; otherwise the one diagnostic about it. -/
theorem singletonSchema_of_misshapen (h : Misshapen singleton faults) :
    (faults = [] ∧ ∃ schema, singletonSchema singleton = .ok schema ∧ singleton.type.Mirrors schema) ∨
      ∃ d, faults = [d] ∧ singletonSchema singleton = .error d := by
  unfold singletonSchema ScriptType.schema
  cases h with
  | fits hobject hdata =>
    obtain ⟨schema, hlower⟩ := ScriptType.exists_lower_iff.2 hdata
    have hmirrors := ScriptType.mirrors_of_lower hlower
    obtain ⟨schemas, rfl⟩ := hmirrors.isObject_iff.1 ⟨_, hobject⟩
    rw [hlower]
    exact .inl ⟨rfl, _, rfl, hmirrors⟩
  | foreign hculprit =>
    rw [ScriptType.lower_eq_error_iff.2 hculprit]
    exact .inr ⟨_, rfl, rfl⟩
  | noObject hdata hno =>
    obtain ⟨schema, hlower⟩ := ScriptType.exists_lower_iff.2 hdata
    have hmirrors := ScriptType.mirrors_of_lower hlower
    rw [hlower]
    refine .inr ⟨_, rfl, ?_⟩
    cases schema with
    | struct schemas =>
      obtain ⟨fields, hfields⟩ := hmirrors.isObject_iff.2 ⟨schemas, rfl⟩
      exact absurd hfields (hno fields)
    | atom | list | option => rfl

theorem Declares.singleton? (h : program.Declares template singleton) :
    program.singleton? template.singleton = some singleton :=
  find?_eq_some_iff_isFirst.2 h

theorem exists_faults (program : Program) (template : Template) : ∃ faults, program.Faults template faults := by
  cases h : program.singleton? template.singleton with
  | none => exact ⟨_, .undeclared (by simpa [Program.singleton?] using h)⟩
  | some singleton =>
    obtain ⟨breaches, hbreaches⟩ := template.exists_breaches singleton
    obtain ⟨misshapen, hmisshapen⟩ := exists_misshapen singleton
    exact ⟨_, .declared (find?_eq_some_iff_isFirst.1 h) hbreaches hmisshapen⟩

theorem Faults.tells (h : program.Faults template faults) : Tells faults (program.singletonInfo template) := by
  unfold singletonInfo
  cases h with
  | undeclared hnone =>
    have hsearch : program.singleton? template.singleton = none := by
      simpa [Program.singleton?] using hnone
    rw [hsearch]
    exact ⟨rfl, List.cons_ne_nil _ _⟩
  | @declared singleton breaches misshapen hfirst hbreaches hmisshapen =>
    rw [hfirst.singleton?]
    have hcheck := hbreaches.tells
    rcases singletonSchema_of_misshapen hmisshapen with ⟨rfl, schema, hschema, -⟩ | ⟨d, rfl, hschema⟩
    all_goals
      simp only [hschema]
      cases hc : template.check singleton with
      | ok capabilities =>
        rw [hc] at hcheck
        cases hcheck
        simp [Tells]
      | error told =>
        rw [hc] at hcheck
        obtain ⟨rfl, hne⟩ := hcheck
        simp [Tells, hne]

theorem faults_nil_iff : program.Faults template [] ↔ program.Conforms template := by
  constructor
  · intro h
    generalize hnil : ([] : List Diagnostic) = faults at h
    cases h with
    | undeclared => cases hnil
    | @declared singleton breaches misshapen hfirst hbreaches hmisshapen =>
      obtain ⟨rfl, rfl⟩ := List.append_eq_nil_iff.1 hnil.symm
      obtain ⟨impl, himpl, hkept⟩ := Template.breaches_nil_iff.1 hbreaches
      obtain ⟨fields, hobject, hdata⟩ := misshapen_nil_iff.1 hmisshapen
      exact ⟨singleton, impl, fields, hfirst, himpl, hkept, hobject, hdata⟩
  · rintro ⟨singleton, impl, fields, hfirst, himpl, hkept, hobject, hdata⟩
    exact .declared hfirst (Template.breaches_nil_iff.2 ⟨impl, himpl, hkept⟩) (.fits hobject hdata)

/-- What is wrong with the driver's singleton comes first. -/
theorem tells_extract {driver device : List Diagnostic} (hdriver : program.Faults .driver driver)
    (hdevice : program.Faults .device device) : Tells (driver ++ device) program.extract := by
  have hfirst := hdriver.tells
  have hsecond := hdevice.tells
  unfold extract
  cases h1 : program.singletonInfo .driver with
  | ok first =>
    rw [h1] at hfirst
    cases hfirst
    cases h2 : program.singletonInfo .device with
    | ok second =>
      rw [h2] at hsecond
      exact hsecond
    | error told =>
      rw [h2] at hsecond
      exact hsecond
  | error told =>
    rw [h1] at hfirst
    obtain ⟨rfl, hne⟩ := hfirst
    cases h2 : program.singletonInfo .device with
    | ok second =>
      rw [h2] at hsecond
      cases hsecond
      exact ⟨(List.append_nil _).symm, by simpa using hne⟩
    | error more =>
      rw [h2] at hsecond
      obtain ⟨rfl, -⟩ := hsecond
      exact ⟨rfl, List.append_ne_nil_of_left_ne_nil hne _⟩

end Program

/-- The schema of the singleton of a template. -/
def DriverInfo.templateSchema (info : DriverInfo) : Template → Schema
  | .driver => info.driverSchema
  | .device => info.deviceSchema

namespace Program

variable {program : Program} {template : Template} {info : DriverInfo}

/-- What is told about the singleton of a template: a schema that mirrors its type, and the base and the
listed capabilities in their usual order. -/
structure Describes (program : Program) (template : Template) (schema : Schema)
    (capabilities : List Capability) : Prop where
  declared : ∃ singleton impl, program.Declares template singleton ∧
    template.ImplementedBy singleton impl ∧ singleton.type.Mirrors schema ∧
    ∀ capability, capability ∈ capabilities ↔ capability = .base ∨ capability.name ∈ impl.capabilities
  ordered : capabilities.Sublist Capability.all

theorem mirrors_of_singletonSchema {singleton : Singleton} {schema : Schema}
    (h : singletonSchema singleton = .ok schema) : singleton.type.Mirrors schema := by
  obtain ⟨faults, hfaults⟩ := exists_misshapen singleton
  rcases singletonSchema_of_misshapen hfaults with ⟨-, found, hfound, hmirrors⟩ | ⟨d, -, herror⟩
  · rw [h] at hfound
    cases hfound
    exact hmirrors
  · rw [h] at herror
    cases herror

theorem describes_of_singletonInfo {schema : Schema} {capabilities : List Capability}
    (h : program.singletonInfo template = .ok (schema, capabilities)) :
    program.Describes template schema capabilities := by
  unfold singletonInfo at h
  split at h
  · cases h
  · next singleton hsingleton =>
    split at h
    · next hcheck hschema =>
      cases h
      obtain ⟨impl, himpl, hunknown, hmissing, rfl⟩ := Template.check_eq_ok_iff.1 hcheck
      refine ⟨⟨singleton, impl, find?_eq_some_iff_isFirst.1 hsingleton,
        find?_eq_some_iff_isFirst.1 himpl, mirrors_of_singletonSchema hschema, fun capability => ?_⟩,
        List.filter_sublist⟩
      have hkept := Template.keptBy_iff.2 ⟨hunknown, hmissing⟩
      rw [Template.mem_provided]
      refine or_congr_right ⟨fun h => h.2, fun hlisted => ⟨?_, hlisted⟩⟩
      obtain ⟨offered, hoffered, hname⟩ := hkept.offered _ hlisted
      rwa [← Capability.name_injective hname]
    all_goals cases h

theorem describes_of_extract (h : program.extract = .ok info) (template : Template) :
    program.Describes template (info.templateSchema template) (info.provides template) := by
  unfold extract at h
  split at h
  · next hdriver hdevice =>
    cases h
    cases template with
    | driver => exact describes_of_singletonInfo hdriver
    | device => exact describes_of_singletonInfo hdevice
  all_goals cases h

theorem exists_extract_iff (program : Program) :
    (∃ info, program.extract = .ok info) ↔ ∀ template, program.Conforms template := by
  obtain ⟨driver, hdriver⟩ := program.exists_faults .driver
  obtain ⟨device, hdevice⟩ := program.exists_faults .device
  rw [(tells_extract hdriver hdevice).exists_ok_iff, List.append_eq_nil_iff]
  constructor
  · rintro ⟨rfl, rfl⟩ template
    cases template with
    | driver => exact faults_nil_iff.1 hdriver
    | device => exact faults_nil_iff.1 hdevice
  · intro hconforms
    have htold := tells_extract (faults_nil_iff.2 (hconforms .driver)) (faults_nil_iff.2 (hconforms .device))
    obtain ⟨info, hok⟩ := htold.exists_ok_iff.2 rfl
    exact List.append_eq_nil_iff.1 ((tells_extract hdriver hdevice).exists_ok_iff.1 ⟨info, hok⟩)

theorem extract_eq_error_iff (program : Program) (told : List Diagnostic) :
    program.extract = .error told ↔ told ≠ [] ∧ ∃ driver device, program.Faults .driver driver ∧
      program.Faults .device device ∧ told = driver ++ device := by
  constructor
  · intro h
    obtain ⟨driver, hdriver⟩ := program.exists_faults .driver
    obtain ⟨device, hdevice⟩ := program.exists_faults .device
    obtain ⟨rfl, hne⟩ := (tells_extract hdriver hdevice).eq_error_iff.1 h
    exact ⟨hne, driver, device, hdriver, hdevice, rfl⟩
  · rintro ⟨hne, driver, device, hdriver, hdevice, rfl⟩
    exact (tells_extract hdriver hdevice).eq_error_iff.2 ⟨rfl, hne⟩

/-- A program is accepted just if both singletons conform, and is then described by its schemas and
capabilities. Otherwise it is refused with all that is wrong, first with the driver's singleton and then
with the device's, and never without a reason. -/
theorem extract_spec (program : Program) :
    ((∃ info, program.extract = .ok info) ↔ ∀ template, program.Conforms template) ∧
      (∀ info, program.extract = .ok info → ∀ template,
        program.Describes template (info.templateSchema template) (info.provides template)) ∧
      ∀ told, program.extract = .error told ↔ told ≠ [] ∧ ∃ driver device,
        program.Faults .driver driver ∧ program.Faults .device device ∧ told = driver ++ device :=
  ⟨program.exists_extract_iff, fun _ h => describes_of_extract h, program.extract_eq_error_iff⟩

end Program

end DriverHub
