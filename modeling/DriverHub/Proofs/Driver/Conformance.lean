import DriverHub.Driver.Action
import DriverHub.Driver.Extraction
import Mathlib.Tactic.Common

/-! What a valid driver has promised: the singleton of each template defines every method that one of
its capabilities requires, and so the function that serves a request. -/

namespace DriverHub

namespace Template

variable {template : Template} {singleton : Singleton} {capabilities : List Capability}

/-- A singleton that passes the check has an implementation in which nothing is unknown or missing. The
first one counts. -/
theorem check_eq_ok_iff : template.check singleton = .ok capabilities ↔
    ∃ impl, singleton.implementation? template.name = some impl ∧
      template.unknownNames impl = [] ∧ template.missingMethods impl = [] ∧
      capabilities = template.provided impl := by
  unfold check
  cases singleton.implementation? template.name with
  | none => simp
  | some impl =>
    simp only [List.isEmpty_iff, List.append_eq_nil_iff, List.map_eq_nil_iff, Option.some.injEq,
      exists_eq_left']
    split
    · next hnone => simp [hnone, eq_comm]
    · next hfaults =>
      constructor
      · intro h
        cases h
      · rintro ⟨hunknown, hmissing, -⟩
        exact absurd ⟨hunknown, hmissing⟩ hfaults

theorem exists_method_of_provided {impl : TemplateImpl} (h : template.missingMethods impl = [])
    {capability : Capability} (hc : capability ∈ template.provided impl) {name : String}
    (hname : name ∈ template.required capability) : ∃ method, impl.method? name = some method := by
  rw [← Option.isSome_iff_exists, ← Option.not_isNone]
  by_contra hnone
  have hmissing : (capability, name) ∈ template.missingMethods impl := by
    refine List.mem_flatMap.2 ⟨capability, hc, List.mem_map.2 ⟨name, ?_, rfl⟩⟩
    simpa [hname] using hnone
  rw [h] at hmissing
  cases hmissing

end Template

/-- The capabilities that the singleton of a template provides. -/
def DriverInfo.provides (info : DriverInfo) : Template → List Capability
  | .driver => info.driverCapabilities
  | .device => info.deviceCapabilities

namespace Program

variable {program : Program} {info : DriverInfo}

/-- The first implementation of a template by its singleton has a method of this name. -/
def Defines (program : Program) (template : Template) (name : String) : Prop :=
  ∃ singleton impl method, program.singleton? template.singleton = some singleton ∧
    singleton.implementation? template.name = some impl ∧ impl.method? name = some method

theorem check_of_singletonInfo {template : Template} {schema : Schema} {capabilities : List Capability}
    (h : program.singletonInfo template = .ok (schema, capabilities)) :
    ∃ singleton, program.singleton? template.singleton = some singleton ∧
      template.check singleton = .ok capabilities := by
  unfold singletonInfo at h
  split at h
  · cases h
  · next singleton hsingleton =>
    split at h
    · next hcheck hschema =>
      cases h
      exact ⟨singleton, hsingleton, hcheck⟩
    all_goals cases h

theorem singletonInfo_of_extract (h : program.extract = .ok info) (template : Template) :
    ∃ schema, program.singletonInfo template = .ok (schema, info.provides template) := by
  unfold extract at h
  split at h
  · next hdriver hdevice =>
    cases h
    cases template with
    | driver => exact ⟨_, hdriver⟩
    | device => exact ⟨_, hdevice⟩
  all_goals cases h

theorem defines_of_extract (h : program.extract = .ok info) {template : Template}
    {capability : Capability} (hc : capability ∈ info.provides template) {name : String}
    (hname : name ∈ template.required capability) : program.Defines template name := by
  obtain ⟨schema, hinfo⟩ := singletonInfo_of_extract h template
  obtain ⟨singleton, hsingleton, hcheck⟩ := check_of_singletonInfo hinfo
  obtain ⟨impl, himpl, -, hmissing, hprovided⟩ := Template.check_eq_ok_iff.1 hcheck
  rw [hprovided] at hc
  obtain ⟨method, hmethod⟩ := Template.exists_method_of_provided hmissing hc hname
  exact ⟨singleton, impl, method, hsingleton, himpl, hmethod⟩

/-- A method that is defined has a place. -/
theorem Defines.exists_span {template : Template} {name : String} (h : program.Defines template name) :
    ∃ span, program.methodSpan? name = some span := by
  obtain ⟨singleton, impl, method, hsingleton, himpl, hmethod⟩ := h
  have hmem : impl ∈ program.singletons.flatMap (·.implementations) :=
    List.mem_flatMap.2 ⟨singleton, List.mem_of_find?_eq_some hsingleton,
      List.mem_of_find?_eq_some himpl⟩
  have hfound : ((program.singletons.flatMap (·.implementations)).findSome?
      (·.method? name)).isSome = true :=
    List.findSome?_isSome_iff.2 ⟨impl, hmem, Option.isSome_of_eq_some hmethod⟩
  obtain ⟨first, hfirst⟩ := Option.isSome_iff_exists.1 hfound
  refine ⟨first.span, ?_⟩
  unfold methodSpan?
  rw [hfirst]
  rfl

end Program

namespace ActionRequest

theorem call_required (request : ActionRequest) :
    request.call.function ∈ Template.device.required request.capability := by
  cases request <;> simp [call, capability, Template.required]

end ActionRequest

end DriverHub
