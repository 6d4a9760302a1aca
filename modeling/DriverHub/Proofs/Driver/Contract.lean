import DriverHub.Driver.Action
import DriverHub.Proofs.Value.Range
import Mathlib.Data.List.Forall2

/-! The contracts of driver functions. Which values keep the contract of a request, and what is then
answered, is said here without the checks; any other value is charged with one fault, and in a list the
first item that offends decides on it. -/

namespace DriverHub

/-! ### One item after another -/

section

variable {ε α β : Type} {f : α → Except ε β}

theorem mapM_eq_ok_iff {xs : List α} {ys : List β} :
    xs.mapM f = .ok ys ↔ List.Forall₂ (fun x y => f x = .ok y) xs ys := by
  induction xs generalizing ys with
  | nil => simp [pure, Except.pure, eq_comm]
  | cons x rest ih =>
    rw [List.mapM_cons, List.forall₂_cons_left_iff]
    simp only [← ih]
    rcases f x with e | y
    · simp [bind, Except.bind]
    · rcases rest.mapM f with e | zs <;> simp [bind, Except.bind, pure, Except.pure, eq_comm]

/-- The first item that is refused decides on the error. -/
theorem mapM_eq_error_iff {xs : List α} {e : ε} : xs.mapM f = .error e ↔
    ∃ earlier x later, xs = earlier ++ x :: later ∧ (∀ y ∈ earlier, ∃ b, f y = .ok b) ∧
      f x = .error e := by
  constructor
  · intro h
    induction xs with
    | nil => cases h
    | cons x rest ih =>
      rw [List.mapM_cons] at h
      rcases hx : f x with e' | y
      · rw [hx] at h
        cases h
        exact ⟨[], x, rest, rfl, nofun, hx⟩
      · rw [hx] at h
        rcases hrest : rest.mapM f with e' | zs
        · rw [hrest] at h
          cases h
          obtain ⟨earlier, x', later, rfl, hearlier, hx'⟩ := ih hrest
          exact ⟨x :: earlier, x', later, rfl, List.forall_mem_cons.2 ⟨⟨y, hx⟩, hearlier⟩, hx'⟩
        · rw [hrest] at h
          cases h
  · rintro ⟨earlier, x, later, rfl, hearlier, hx⟩
    induction earlier with
    | nil =>
      rw [List.nil_append, List.mapM_cons, hx]
      rfl
    | cons y earlier ih =>
      obtain ⟨⟨b, hy⟩, hrest⟩ := List.forall_mem_cons.1 hearlier
      rw [List.cons_append, List.mapM_cons, hy]
      simp [bind, Except.bind, ih hrest]

end

/-! ### Contracts -/

namespace Contract

/-- An item is an object that gives a channel: its label, the range of its levels and its level. -/
structure IsDimmable (item : Value) (label : String) (range : Range) (level : Int64) : Prop where
  label : item.field? "label" = some (.str label)
  range : item.field? "range" = some (.range range)
  level : item.field? "value" = some (.int level)

/-- An item is an object that gives a sensor: its label, what was read and the unit. -/
structure IsSensor (item : Value) (label : String) (reading : Value) (unit : String) : Prop where
  label : item.field? "label" = some (.str label)
  reading : item.field? "value" = some reading
  unit : item.field? "unit" = some (.str unit)

def negativeDraw (draw : Int64) (span : Span) : Diagnostic :=
  .driverFault ("Device function `report_power_draw` should return positive power consumption but " ++
    "returned " ++ Digits.intText draw.toInt) span

def outOfRange (label : String) (range : Range) (level : Int64) (span : Span) : Diagnostic :=
  .driverFault ("Device function `report_dim` should return value in dimmable range(" ++ range.text ++
    ") but returned " ++ Digits.intText level.toInt ++ " for label `" ++ label ++ "`") span

def notPrimitive (label : String) (reading : Value) (span : Span) : Diagnostic :=
  .driverFault ("Device function `report_sensor_readings` should return a primitive value but " ++
    "returned `" ++ reading.text ++ "` for label `" ++ label ++ "`") span

/-- What an item of the list `whole` of channels is charged with: it is no channel, or its level is not
in its range. -/
inductive DimmableFault (whole : Value) (span : Span) (item : Value) : Diagnostic → Prop
  | shape (odd : ∀ label range level, ¬ IsDimmable item label range level) :
    DimmableFault whole span item (unexpected "report_dim" (.list dimmableType) whole span)
  | range {label : String} {range : Range} {level : Int64} (given : IsDimmable item label range level)
      (outside : level.toInt ∉ range.numbers) :
    DimmableFault whole span item (outOfRange label range level span)

/-- What an item of the list `whole` of readings is charged with: it is no sensor, or what was read is
not a single value. -/
inductive SensorFault (whole : Value) (span : Span) (item : Value) : Diagnostic → Prop
  | shape (odd : ∀ label reading unit, ¬ IsSensor item label reading unit) :
    SensorFault whole span item (unexpected "report_sensor_readings" (.list sensorType) whole span)
  | reading {label : String} {reading : Value} {unit : String} (given : IsSensor item label reading unit)
      (compound : reading.isPrimitive = false) :
    SensorFault whole span item (notPrimitive label reading span)

/-- The first item that is not fine is charged with `d`. -/
def FirstFault (fine : Value → Prop) (fault : Value → Diagnostic → Prop) (items : List Value)
    (d : Diagnostic) : Prop :=
  ∃ earlier item later, items = earlier ++ item :: later ∧ (∀ i ∈ earlier, fine i) ∧ fault item d

end Contract

/-- A report tells of the channel that an item gives, if the level is in the range. The bounds are the
least and the greatest integer of the range. -/
inductive DimmableReport.Tells (report : DimmableReport) (item : Value) : Prop
  | intro {range : Range} (given : Contract.IsDimmable item report.label range report.value)
      (inside : report.value.toInt ∈ range.numbers)
      (bounds : ∀ n, n ∈ range.numbers ↔ report.lower.toInt ≤ n ∧ n ≤ report.upper.toInt)
      (between : report.lower ≤ report.value ∧ report.value ≤ report.upper)

/-- A reading tells of the sensor that an item gives, if a single value was read. -/
inductive SensorReading.Tells (told : SensorReading) (item : Value) : Prop
  | intro {reading : Value} (given : Contract.IsSensor item told.label reading told.unit)
      (primitive : reading.isPrimitive = true) (value : told.value = reading.toJson)

namespace ActionRequest

/-- The kind of the values that answer a request. -/
def answerKind : ActionRequest → ValueKind
  | reportPower | setPower _ | dim _ _ => .bool
  | reportPowerDraw => .int
  | reportDim | reportSensors => .list
  | healthCheck => .null

/-- A value keeps the contract of a request, which is answered so. -/
inductive Keeps : ActionRequest → Value → ActionOutput → Prop
  | power {on : Bool} : Keeps reportPower (.bool on) (.powerState on)
  | powerDraw {draw : Int64} (notNegative : 0 ≤ draw) :
    Keeps reportPowerDraw (.int draw) (.powerDraw draw)
  | switched {on changed : Bool} : Keeps (setPower on) (.bool changed) (.changed changed)
  | dimmables {items : List Value} {reports : List DimmableReport}
      (told : List.Forall₂ (fun item report => DimmableReport.Tells report item) items reports) :
    Keeps reportDim (.list items) (.dimmables reports)
  | dimmed {label : String} {level : Int64} {changed : Bool} :
    Keeps (dim label level) (.bool changed) (.changed changed)
  | sensors {items : List Value} {readings : List SensorReading}
      (told : List.Forall₂ (fun item reading => SensorReading.Tells reading item) items readings) :
    Keeps reportSensors (.list items) (.sensorReadings readings)
  | healthy : Keeps healthCheck .null .none

/-- What a value is charged with that breaks the contract of a request. -/
inductive Offends (span : Span) : ActionRequest → Value → Diagnostic → Prop
  | kind {request : ActionRequest} {value : Value} (odd : value.kind ≠ request.answerKind) :
    Offends span request value
      (Contract.unexpected request.call.function request.call.signature.returns value span)
  | draw {draw : Int64} (negative : draw < 0) :
    Offends span reportPowerDraw (.int draw) (Contract.negativeDraw draw span)
  | dimmable {items : List Value} {d : Diagnostic}
      (first : Contract.FirstFault (fun item => ∃ report : DimmableReport, report.Tells item)
        (Contract.DimmableFault (.list items) span) items d) :
    Offends span reportDim (.list items) d
  | sensor {items : List Value} {d : Diagnostic}
      (first : Contract.FirstFault (fun item => ∃ reading : SensorReading, reading.Tells item)
        (Contract.SensorFault (.list items) span) items d) :
    Offends span reportSensors (.list items) d

end ActionRequest

/-! ### The items of lists -/

namespace Contract

variable {whole item : Value} {span : Span} {d : Diagnostic} {items : List Value}

theorem dimmable?_eq_some_iff {label : String} {range : Range} {level : Int64} :
    dimmable? item = some (label, range, level) ↔ IsDimmable item label range level := by
  constructor
  · intro h
    simp only [dimmable?, Option.bind_eq_bind, Option.pure_def, Option.bind_eq_some_iff] at h
    obtain ⟨v, hlabel, s, hs, w, hrange, r, hr, u, hlevel, i, hi, heq⟩ := h
    cases heq
    refine ⟨?_, ?_, ?_⟩
    · cases v <;> cases hs
      exact hlabel
    · cases w <;> cases hr
      exact hrange
    · cases u <;> cases hi
      exact hlevel
  · rintro ⟨hlabel, hrange, hlevel⟩
    simp [dimmable?, hlabel, hrange, hlevel, Value.str?, Value.range?, Value.int?]

theorem sensor?_eq_some_iff {label : String} {reading : Value} {unit : String} :
    sensor? item = some (label, reading, unit) ↔ IsSensor item label reading unit := by
  constructor
  · intro h
    simp only [sensor?, Option.bind_eq_bind, Option.pure_def, Option.bind_eq_some_iff] at h
    obtain ⟨v, hlabel, s, hs, r, hreading, w, hunit, t, ht, heq⟩ := h
    cases heq
    refine ⟨?_, hreading, ?_⟩
    · cases v <;> cases hs
      exact hlabel
    · cases w <;> cases ht
      exact hunit
  · rintro ⟨hlabel, hreading, hunit⟩
    simp [sensor?, hlabel, hreading, hunit, Value.str?]

/-- The check of one item. -/
def dimmableItem (whole : Value) (span : Span) (item : Value) : Except Diagnostic DimmableReport :=
  match dimmable? item with
  | none => .error (unexpected "report_dim" (.list dimmableType) whole span)
  | some (label, range, level) =>
    if range.contains level then
      .ok { label, lower := range.bounds.1, upper := range.bounds.2, value := level }
    else .error (outOfRange label range level span)

theorem dimmableItems_eq_mapM : dimmableItems whole span items = items.mapM (dimmableItem whole span) := by
  induction items with
  | nil => rfl
  | cons item rest ih =>
    rw [List.mapM_cons, ← ih]
    rcases hitem : dimmable? item with _ | ⟨label, range, level⟩
    · simp only [dimmableItems, dimmableItem, hitem]
      rfl
    · simp only [dimmableItems, dimmableItem, hitem]
      split
      · rcases dimmableItems whole span rest with e | reports <;> rfl
      · rfl

theorem dimmableItem_eq_ok_iff {report : DimmableReport} :
    dimmableItem whole span item = .ok report ↔ report.Tells item := by
  unfold dimmableItem
  constructor
  · intro h
    rcases hitem : dimmable? item with _ | ⟨label, range, level⟩
    · simp only [hitem] at h
      cases h
    · simp only [hitem] at h
      split at h
      · next hcontains =>
        cases h
        have hinside := Range.contains_iff.1 hcontains
        have hbounds (n : ℤ) := Range.mem_numbers_iff_bounds ⟨_, hinside⟩ (n := n)
        have hbetween := (hbounds _).1 hinside
        exact ⟨dimmable?_eq_some_iff.1 hitem, hinside, hbounds, Int64.le_iff_toInt_le.2 hbetween.1,
          Int64.le_iff_toInt_le.2 hbetween.2⟩
      · cases h
  · rintro @⟨range, given, inside, bounds, -⟩
    simp only [dimmable?_eq_some_iff.2 given, Range.contains_iff.2 inside, if_true,
      Range.bounds_unique ⟨_, inside⟩ bounds]

theorem dimmableItem_eq_error_iff :
    dimmableItem whole span item = .error d ↔ DimmableFault whole span item d := by
  unfold dimmableItem
  constructor
  · intro h
    rcases hitem : dimmable? item with _ | ⟨label, range, level⟩
    · simp only [hitem] at h
      cases h
      refine .shape fun label range level hgiven => ?_
      rw [dimmable?_eq_some_iff.2 hgiven] at hitem
      cases hitem
    · simp only [hitem] at h
      split at h
      · cases h
      · next hcontains =>
        cases h
        exact .range (dimmable?_eq_some_iff.1 hitem) fun hinside =>
          hcontains (Range.contains_iff.2 hinside)
  · rintro (odd | ⟨given, outside⟩)
    · rcases hitem : dimmable? item with _ | ⟨label, range, level⟩
      · rfl
      · exact absurd (dimmable?_eq_some_iff.1 hitem) (odd _ _ _)
    · simp only [dimmable?_eq_some_iff.2 given]
      exact if_neg fun hcontains => outside (Range.contains_iff.1 hcontains)

/-- The check of one item. -/
def sensorItem (whole : Value) (span : Span) (item : Value) : Except Diagnostic SensorReading :=
  match sensor? item with
  | none => .error (unexpected "report_sensor_readings" (.list sensorType) whole span)
  | some (label, reading, unit) =>
    if reading.isPrimitive then .ok { label, value := reading.toJson, unit }
    else .error (notPrimitive label reading span)

theorem sensorItems_eq_mapM : sensorItems whole span items = items.mapM (sensorItem whole span) := by
  induction items with
  | nil => rfl
  | cons item rest ih =>
    rw [List.mapM_cons, ← ih]
    rcases hitem : sensor? item with _ | ⟨label, reading, unit⟩
    · simp only [sensorItems, sensorItem, hitem]
      rfl
    · simp only [sensorItems, sensorItem, hitem]
      split
      · rcases sensorItems whole span rest with e | readings <;> rfl
      · rfl

theorem sensorItem_eq_ok_iff {told : SensorReading} :
    sensorItem whole span item = .ok told ↔ told.Tells item := by
  unfold sensorItem
  constructor
  · intro h
    rcases hitem : sensor? item with _ | ⟨label, reading, unit⟩
    · simp only [hitem] at h
      cases h
    · simp only [hitem] at h
      split at h
      · next hprimitive =>
        cases h
        exact ⟨sensor?_eq_some_iff.1 hitem, hprimitive, rfl⟩
      · cases h
  · rintro ⟨given, primitive, value⟩
    simp only [sensor?_eq_some_iff.2 given, primitive, if_true, ← value]

theorem sensorItem_eq_error_iff :
    sensorItem whole span item = .error d ↔ SensorFault whole span item d := by
  unfold sensorItem
  constructor
  · intro h
    rcases hitem : sensor? item with _ | ⟨label, reading, unit⟩
    · simp only [hitem] at h
      cases h
      refine .shape fun label reading unit hgiven => ?_
      rw [sensor?_eq_some_iff.2 hgiven] at hitem
      cases hitem
    · simp only [hitem] at h
      split at h
      · cases h
      · next hcompound =>
        cases h
        exact .reading (sensor?_eq_some_iff.1 hitem) (Bool.not_eq_true _ ▸ hcompound)
  · rintro (odd | ⟨given, compound⟩)
    · rcases hitem : sensor? item with _ | ⟨label, reading, unit⟩
      · rfl
      · exact absurd (sensor?_eq_some_iff.1 hitem) (odd _ _ _)
    · simp [sensor?_eq_some_iff.2 given, compound]

theorem dimmableItems_eq_ok_iff {reports : List DimmableReport} :
    dimmableItems whole span items = .ok reports ↔
      List.Forall₂ (fun item report => DimmableReport.Tells report item) items reports := by
  rw [dimmableItems_eq_mapM, mapM_eq_ok_iff]
  simp only [dimmableItem_eq_ok_iff]

theorem dimmableItems_eq_error_iff : dimmableItems whole span items = .error d ↔
    FirstFault (fun item => ∃ report : DimmableReport, report.Tells item) (DimmableFault whole span)
      items d := by
  rw [dimmableItems_eq_mapM, mapM_eq_error_iff]
  simp only [dimmableItem_eq_ok_iff, dimmableItem_eq_error_iff]
  rfl

theorem sensorItems_eq_ok_iff {readings : List SensorReading} :
    sensorItems whole span items = .ok readings ↔
      List.Forall₂ (fun item reading => SensorReading.Tells reading item) items readings := by
  rw [sensorItems_eq_mapM, mapM_eq_ok_iff]
  simp only [sensorItem_eq_ok_iff]

theorem sensorItems_eq_error_iff : sensorItems whole span items = .error d ↔
    FirstFault (fun item => ∃ reading : SensorReading, reading.Tells item) (SensorFault whole span)
      items d := by
  rw [sensorItems_eq_mapM, mapM_eq_error_iff]
  simp only [sensorItem_eq_ok_iff, sensorItem_eq_error_iff]
  rfl

end Contract

/-! ### Checks -/

namespace ActionRequest

variable {request : ActionRequest} {value : Value} {output : ActionOutput} {span : Span} {d : Diagnostic}

theorem check_of_keeps (h : request.Keeps value output) (span : Span) :
    request.check span value = .ok output := by
  cases h with
  | power | switched | dimmed | healthy => rfl
  | powerDraw notNegative => simp [check, Contract.powerDraw, notNegative, Except.map]
  | dimmables told => simp [check, Contract.dimmables, Contract.dimmableItems_eq_ok_iff.2 told, Except.map]
  | sensors told => simp [check, Contract.sensors, Contract.sensorItems_eq_ok_iff.2 told, Except.map]

theorem check_of_offends (h : request.Offends span value d) : request.check span value = .error d := by
  cases h with
  | kind odd => cases request <;> cases value <;> first | rfl | exact absurd rfl odd
  | @draw draw negative =>
    have hnot : ¬ 0 ≤ draw := Int64.not_le.2 negative
    simp [check, Contract.powerDraw, Contract.negativeDraw, hnot, Except.map]
  | dimmable first =>
    simp [check, Contract.dimmables, Contract.dimmableItems_eq_error_iff.2 first, Except.map]
  | sensor first => simp [check, Contract.sensors, Contract.sensorItems_eq_error_iff.2 first, Except.map]

theorem keeps_or_offends (request : ActionRequest) (value : Value) (span : Span) :
    (∃ output, request.Keeps value output) ∨ ∃ d, request.Offends span value d := by
  by_cases hkind : value.kind = request.answerKind
  swap
  · exact .inr ⟨_, .kind hkind⟩
  cases request with
  | reportPower =>
    cases value <;> cases hkind
    exact .inl ⟨_, .power⟩
  | reportPowerDraw =>
    cases value <;> cases hkind
    next draw =>
      by_cases hdraw : 0 ≤ draw
      · exact .inl ⟨_, .powerDraw hdraw⟩
      · exact .inr ⟨_, .draw (Int64.not_le.1 hdraw)⟩
  | setPower on =>
    cases value <;> cases hkind
    exact .inl ⟨_, .switched⟩
  | reportDim =>
    cases value <;> cases hkind
    next items =>
      rcases hitems : Contract.dimmableItems (.list items) span items with d | reports
      · exact .inr ⟨d, .dimmable (Contract.dimmableItems_eq_error_iff.1 hitems)⟩
      · exact .inl ⟨_, .dimmables (Contract.dimmableItems_eq_ok_iff.1 hitems)⟩
  | dim label level =>
    cases value <;> cases hkind
    exact .inl ⟨_, .dimmed⟩
  | reportSensors =>
    cases value <;> cases hkind
    next items =>
      rcases hitems : Contract.sensorItems (.list items) span items with d | readings
      · exact .inr ⟨d, .sensor (Contract.sensorItems_eq_error_iff.1 hitems)⟩
      · exact .inl ⟨_, .sensors (Contract.sensorItems_eq_ok_iff.1 hitems)⟩
  | healthCheck =>
    cases value <;> cases hkind
    exact .inl ⟨_, .healthy⟩

theorem keeps_unique {output' : ActionOutput} (h : request.Keeps value output)
    (h' : request.Keeps value output') : output = output' :=
  Except.ok.inj ((check_of_keeps h default).symm.trans (check_of_keeps h' default))

theorem not_offends (h : request.Keeps value output) : ¬ request.Offends span value d := by
  intro hoffends
  have hboth := (check_of_keeps h span).symm.trans (check_of_offends hoffends)
  cases hboth

theorem Offends.driverFault (h : request.Offends span value d) : d = .driverFault d.message span := by
  cases h with
  | kind | draw => rfl
  | dimmable first =>
    obtain ⟨_, _, _, -, -, hfault⟩ := first
    cases hfault <;> rfl
  | sensor first =>
    obtain ⟨_, _, _, -, -, hfault⟩ := first
    cases hfault <;> rfl

end ActionRequest

end DriverHub
