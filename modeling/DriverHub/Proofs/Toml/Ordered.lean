import DriverHub.Config.Reading
import DriverHub.Proofs.Config.Fields

/-! Tables that are read have their names in order, each name once, however deep they lie. So the
overrides of a configuration file are a finite map. -/

namespace DriverHub

namespace Toml

/-- All tables in a value have their names in order. -/
inductive Ordered : Toml → Prop
  | str (text : String) : Ordered (.str text)
  | int (value : Int) : Ordered (.int value)
  | bool (value : Bool) : Ordered (.bool value)
  | float : Ordered .float
  | date : Ordered .date
  | array {items} (each : ∀ item ∈ items, Ordered item.2) : Ordered (.array items)
  | tables {items} (each : ∀ item ∈ items, Ordered item.2) : Ordered (.tables items)
  | table {origin members} (sorted : Dict.Sorted members) (each : ∀ m ∈ members, Ordered m.2.2) :
    Ordered (.table origin members)

namespace Table

/-- A step that builds on a table in order and leaves it so. -/
def KeepsOrder (f : Table → Option Table) : Prop :=
  ∀ t t', t.toml.Ordered → f t = some t' → t'.toml.Ordered

theorem ordered_empty (origin : TableOrigin) : (⟨origin, []⟩ : Table).toml.Ordered :=
  .table .nil nofun

theorem ordered_insert {t : Table} (h : t.toml.Ordered) (name : String) (range : TextRange)
    {value : Toml} (hvalue : value.Ordered) :
    ({ t with members := Dict.insert name (range, value) t.members } : Table).toml.Ordered := by
  obtain ⟨origin, members⟩ := t
  cases h with
  | table sorted each =>
    refine .table (Dict.sorted_insert name _ sorted) fun m hm => ?_
    rcases Dict.mem_insert hm with rfl | hm
    · exact hvalue
    · exact each m hm

theorem ordered_of_find? {t : Table} (h : t.toml.Ordered) {name : String} {range : TextRange}
    {value : Toml} (hfind : Dict.find? name t.members = some (range, value)) : value.Ordered := by
  obtain ⟨origin, members⟩ := t
  cases h with
  | table sorted each => exact each _ (Dict.mem_of_find? hfind)

theorem ordered_of_table? {value : Toml} {t : Table} (h : value.Ordered)
    (ht : value.table? = some t) : t.toml.Ordered := by
  cases value with
  | table origin members =>
    cases ht
    exact h
  | _ => cases ht

theorem ordered_changeLast {f : Table → Option Table} (hf : KeepsOrder f)
    {items items' : List (TextRange × Toml)} (h : ∀ item ∈ items, item.2.Ordered)
    (hchange : changeLast f items = some items') : ∀ item ∈ items', item.2.Ordered := by
  induction items generalizing items' with
  | nil => cases hchange
  | cons item rest ih =>
    obtain ⟨range, last⟩ := item
    cases rest with
    | nil =>
      simp only [changeLast, Option.bind_eq_bind, Option.bind_eq_some_iff] at hchange
      obtain ⟨t, ht, t', hft, hitems⟩ := hchange
      cases hitems
      intro item hitem
      obtain rfl := List.mem_singleton.1 hitem
      exact hf t t' (ordered_of_table? (h _ List.mem_cons_self) ht) hft
    | cons next rest =>
      simp only [changeLast, Option.bind_eq_bind, Option.bind_eq_some_iff] at hchange
      obtain ⟨rest', hrest', hitems⟩ := hchange
      cases hitems
      intro item hitem
      rcases List.mem_cons.1 hitem with rfl | hitem
      · exact h _ List.mem_cons_self
      · exact ih (fun item hitem => h item (List.mem_cons_of_mem _ hitem)) hrest' item hitem

theorem keepsOrder_descend {dotted : Bool} {f : Table → Option Table} (hf : KeepsOrder f)
    (path : List Key) : KeepsOrder (descend dotted f path) := by
  induction path with
  | nil => exact hf
  | cons key path ih =>
    intro t t' ht hdescend
    rw [descend] at hdescend
    split at hdescend
    · -- a new table on the way
      simp only [Option.bind_eq_bind, Option.bind_eq_some_iff] at hdescend
      obtain ⟨inner, hinner, h⟩ := hdescend
      cases h
      exact ordered_insert ht key.name key.range (ih _ inner (ordered_empty _) hinner)
    · next range origin members hfind =>
      split at hdescend
      · cases hdescend
      · simp only [Option.bind_eq_bind, Option.bind_eq_some_iff] at hdescend
        obtain ⟨inner, hinner, h⟩ := hdescend
        cases h
        exact ordered_insert ht key.name range (ih _ inner (ordered_of_find? ht hfind) hinner)
    · next range items hfind =>
      simp only [Option.bind_eq_bind, Option.bind_eq_some_iff] at hdescend
      obtain ⟨items', hitems', h⟩ := hdescend
      cases h
      have hitems := ordered_of_find? ht hfind
      cases hitems with
      | tables each =>
        exact ordered_insert ht key.name range (.tables (ordered_changeLast ih each hitems'))
    · cases hdescend

theorem keepsOrder_set (path : List Key) (key : Key) (range : TextRange) {value : Toml}
    (h : value.Ordered) : KeepsOrder (set path key range value) := by
  refine keepsOrder_descend ?_ path
  intro t t' ht hset
  dsimp only at hset
  split at hset
  · cases hset
  · cases hset
    exact ordered_insert ht key.name range h

theorem keepsOrder_openTable (path : List Key) (key : Key) (range : TextRange)
    {fill : Table → Option Table} (hfill : KeepsOrder fill) :
    KeepsOrder (openTable path key range fill) := by
  refine keepsOrder_descend ?_ path
  intro t t' ht hopen
  -- whatever the table starts from, filling it keeps the order
  have hinner {start : Dict String (TextRange × Toml)}
      (hstart : (⟨.header, start⟩ : Table).toml.Ordered)
      (h : (fill ⟨.header, start⟩).bind (fun inner =>
        some { t with members := Dict.insert key.name (range, inner.toml) t.members }) = some t') :
      t'.toml.Ordered := by
    obtain ⟨inner, hinner, h⟩ := Option.bind_eq_some_iff.1 h
    cases h
    exact ordered_insert ht key.name range (hfill _ inner hstart hinner)
  dsimp only at hopen
  split at hopen
  · exact hinner (ordered_empty .header) hopen
  · next hfind =>
    refine hinner ?_ hopen
    have hmembers := ordered_of_find? ht hfind
    cases hmembers with
    | table sorted each => exact .table sorted each
  · cases hopen

theorem keepsOrder_appendTable (path : List Key) (key : Key) (range : TextRange)
    {fill : Table → Option Table} (hfill : KeepsOrder fill) :
    KeepsOrder (appendTable path key range fill) := by
  refine keepsOrder_descend ?_ path
  intro t t' ht happend
  have hinner {start : List (TextRange × Toml)} (hstart : ∀ item ∈ start, item.2.Ordered)
      (h : (fill ⟨.header, []⟩).bind (fun inner => some { t with
        members := Dict.insert key.name (range, .tables (start ++ [(range, inner.toml)])) t.members }) =
          some t') :
      t'.toml.Ordered := by
    obtain ⟨inner, hinner, h⟩ := Option.bind_eq_some_iff.1 h
    cases h
    refine ordered_insert ht key.name range (.tables fun item hitem => ?_)
    rcases List.mem_append.1 hitem with hitem | hitem
    · exact hstart item hitem
    · obtain rfl := List.mem_singleton.1 hitem
      exact hfill _ inner (ordered_empty .header) hinner
  dsimp only at happend
  split at happend
  · exact hinner (by simp) happend
  · next hfind =>
    have hitems := ordered_of_find? ht hfind
    cases hitems with
    | tables each => exact hinner each happend
  · cases happend

end Table

namespace Scalar

theorem ordered_int? {i : Int} {v : Toml} (h : int? i = some v) : v.Ordered := by
  unfold int? at h
  split at h
  · cases h
    exact .int i
  · cases h

theorem ordered_float? {text : List Char} {v : Toml} (h : float? text = some v) : v.Ordered := by
  simp only [float?, Option.bind_eq_bind, Option.bind_eq_some_iff] at h
  obtain ⟨x, -, h⟩ := h
  split at h
  · cases h
    exact .float
  · cases h

theorem ordered_floatTail? {whole cs : List Char} {v : Toml} (h : floatTail? whole cs = some v) :
    v.Ordered := by
  unfold floatTail? at h
  split at h
  · simp only [Option.bind_eq_bind, Option.bind_eq_some_iff] at h
    obtain ⟨fraction, -, h⟩ := h
    split at h
    · exact ordered_float? h
    · split at h
      · obtain ⟨e, -, h⟩ := Option.bind_eq_some_iff.1 h
        exact ordered_float? h
      · cases h
  · split at h
    · obtain ⟨e, -, h⟩ := Option.bind_eq_some_iff.1 h
      exact ordered_float? h
    · cases h
  · cases h

theorem ordered_unsigned? {negative : Bool} {cs : List Char} {v : Toml}
    (h : unsigned? negative cs = some v) : v.Ordered := by
  unfold unsigned? at h
  split at h
  · cases h
    exact .float
  · cases h
    exact .float
  · obtain ⟨whole, -, h⟩ := Option.bind_eq_some_iff.1 h
    split at h
    · exact ordered_int? h
    · exact ordered_floatTail? h

theorem ordered_plain? {cs : List Char} {v : Toml} (h : plain? cs = some v) : v.Ordered := by
  unfold plain? at h
  split at h
  · cases h
    exact .bool true
  · cases h
    exact .bool false
  · obtain ⟨i, -, h⟩ := Option.bind_eq_some_iff.1 h
    exact ordered_int? h
  · obtain ⟨i, -, h⟩ := Option.bind_eq_some_iff.1 h
    exact ordered_int? h
  · obtain ⟨i, -, h⟩ := Option.bind_eq_some_iff.1 h
    exact ordered_int? h
  · exact ordered_unsigned? h
  · exact ordered_unsigned? h
  · exact ordered_unsigned? h

theorem ordered_read? {cs rest : List Char} {v : Toml} (h : read? cs = some (v, rest)) :
    v.Ordered := by
  unfold read? at h
  dsimp only at h
  split at h
  · obtain ⟨_, -, h⟩ := Option.map_eq_some_iff.1 h
    cases h
    exact .date
  · split at h
    · obtain ⟨_, -, h⟩ := Option.map_eq_some_iff.1 h
      cases h
      exact .date
    · obtain ⟨_, hplain, h⟩ := Option.map_eq_some_iff.1 h
      cases h
      exact ordered_plain? hplain

end Scalar

namespace Parser

/-- What is read with so much fuel is in order: values, the items of arrays, and the members that are added
to a table in order. -/
structure InOrder (size fuel : Nat) : Prop where
  value : ∀ {depth cs v rest}, Parser.value size fuel depth cs = some (v, rest) → v.Ordered
  items : ∀ {depth cs xs rest}, Parser.items size fuel depth cs = some (xs, rest) → ∀ item ∈ xs, item.2.Ordered
  members : ∀ {depth t cs t' rest}, t.toml.Ordered →
    Parser.members size fuel depth t cs = some (t', rest) → t'.toml.Ordered

namespace InOrder

variable {size fuel depth : Nat} {cs rest : List Char}

theorem ordered_quoted {quoted : Option (String × List Char)} {v : Toml}
    (h : quoted.map (fun read => (Toml.str read.1, read.2)) = some (v, rest)) : v.Ordered := by
  obtain ⟨⟨s, _⟩, -, h⟩ := Option.map_eq_some_iff.1 h
  cases h
  exact .str s

theorem value_succ (h : InOrder size fuel) {v : Toml}
    (hread : Parser.value size (fuel + 1) depth cs = some (v, rest)) : v.Ordered := by
  unfold Parser.value at hread
  split at hread
  · exact ordered_quoted hread
  · exact ordered_quoted hread
  · exact ordered_quoted hread
  · exact ordered_quoted hread
  · split at hread
    · cases hread
    · obtain ⟨⟨xs, _⟩, hxs, hread⟩ := Option.map_eq_some_iff.1 hread
      cases hread
      exact .array (h.items hxs)
  · split at hread
    · cases hread
    · obtain ⟨⟨t, _⟩, ht, hread⟩ := Option.map_eq_some_iff.1 hread
      cases hread
      exact h.members (Table.ordered_empty .inline) ht
  · exact Scalar.ordered_read? hread

theorem items_succ (h : InOrder size fuel) {xs : List (TextRange × Toml)}
    (hread : Parser.items size (fuel + 1) depth cs = some (xs, rest)) : ∀ item ∈ xs, item.2.Ordered := by
  unfold Parser.items at hread
  obtain ⟨start, -, hread⟩ := Option.bind_eq_some_iff.1 hread
  split at hread
  · cases hread
    exact List.forall_mem_nil _
  · obtain ⟨⟨v, stop⟩, hv, hread⟩ := Option.bind_eq_some_iff.1 hread
    have hitem := h.value hv
    obtain ⟨next, -, hread⟩ := Option.bind_eq_some_iff.1 hread
    split at hread
    · cases hread
      exact List.forall_mem_singleton.2 hitem
    · obtain ⟨⟨more, _⟩, hmore, hread⟩ := Option.bind_eq_some_iff.1 hread
      cases hread
      exact List.forall_mem_cons.2 ⟨hitem, h.items hmore⟩
    · cases hread

theorem members_succ (h : InOrder size fuel) {t t' : Table} (ht : t.toml.Ordered)
    (hread : Parser.members size (fuel + 1) depth t cs = some (t', rest)) : t'.toml.Ordered := by
  unfold Parser.members at hread
  obtain ⟨start, -, hread⟩ := Option.bind_eq_some_iff.1 hread
  split at hread
  · cases hread
    exact ht
  · obtain ⟨⟨path, last, _⟩, -, hread⟩ := Option.bind_eq_some_iff.1 hread
    obtain ⟨_, -, hread⟩ := Option.bind_eq_some_iff.1 hread
    obtain ⟨⟨v, stop⟩, hv, hread⟩ := Option.bind_eq_some_iff.1 hread
    obtain ⟨t₁, hset, hread⟩ := Option.bind_eq_some_iff.1 hread
    have ht₁ := Table.keepsOrder_set _ _ _ (h.value hv) t t₁ ht hset
    obtain ⟨next, -, hread⟩ := Option.bind_eq_some_iff.1 hread
    split at hread
    · cases hread
      exact ht₁
    · exact h.members ht₁ hread
    · cases hread

end InOrder

theorem inOrder (size fuel : Nat) : InOrder size fuel := by
  induction fuel with
  | zero => exact ⟨nofun, nofun, nofun⟩
  | succ fuel ih => exact ⟨ih.value_succ, ih.items_succ, ih.members_succ⟩

theorem ordered_assignment {size : Nat} {cs rest : List Char} {a : Assignment}
    (h : assignment size cs = some (a, rest)) : a.value.Ordered := by
  unfold assignment at h
  obtain ⟨⟨path, key, _⟩, -, h⟩ := Option.bind_eq_some_iff.1 h
  obtain ⟨_, -, h⟩ := Option.bind_eq_some_iff.1 h
  obtain ⟨⟨v, stop⟩, hv, h⟩ := Option.bind_eq_some_iff.1 h
  cases h
  exact (inOrder _ _).value hv

theorem ordered_statements {size fuel : Nat} {cs : List Char} {all : List Statement}
    (h : statements size fuel cs = some all) :
    ∀ a, .assignment a ∈ all → a.value.Ordered := by
  induction fuel generalizing cs all with
  | zero => cases h
  | succ fuel ih =>
    unfold statements at h
    obtain ⟨start, -, h⟩ := Option.bind_eq_some_iff.1 h
    split at h
    · cases h
      exact nofun
    · obtain ⟨⟨first, _⟩, hfirst, h⟩ := Option.bind_eq_some_iff.1 h
      obtain ⟨_, -, h⟩ := Option.bind_eq_some_iff.1 h
      obtain ⟨others, hothers, h⟩ := Option.bind_eq_some_iff.1 h
      cases h
      intro a ha
      rcases List.mem_cons.1 ha with rfl | ha
      · unfold statement at hfirst
        split at hfirst
        · obtain ⟨_, -, h⟩ := Option.map_eq_some_iff.1 hfirst
          cases h
        · obtain ⟨⟨a', _⟩, ha', h⟩ := Option.map_eq_some_iff.1 hfirst
          cases h
          exact ordered_assignment ha'
      · exact ih hothers a ha

/-- The assignments of sections are those of the statements. -/
theorem mem_of_mem_sections (all : List Statement) :
    (∀ a ∈ (sections all).1, .assignment a ∈ all) ∧
    ∀ entry ∈ (sections all).2, ∀ a ∈ entry.2, .assignment a ∈ all := by
  induction all with
  | nil => exact ⟨nofun, nofun⟩
  | cons first rest ih =>
    obtain ⟨htop, hunder⟩ := ih
    cases first with
    | assignment b =>
      refine ⟨fun a ha => ?_, fun entry hentry a ha => ?_⟩
      · rcases List.mem_cons.1 ha with rfl | ha
        · exact List.mem_cons_self
        · exact List.mem_cons_of_mem _ (htop a ha)
      · exact List.mem_cons_of_mem _ (hunder entry hentry a ha)
    | header h =>
      refine ⟨nofun, fun entry hentry a ha => List.mem_cons_of_mem _ ?_⟩
      rcases List.mem_cons.1 hentry with rfl | hentry
      · exact htop a ha
      · exact hunder entry hentry a ha

theorem keepsOrder_foldlM {A : Type} {f : Table → A → Option Table} {as : List A}
    (h : ∀ a ∈ as, Table.KeepsOrder fun t => f t a) : Table.KeepsOrder fun t => as.foldlM f t := by
  induction as with
  | nil =>
    intro t t' ht hfold
    cases hfold
    exact ht
  | cons a rest ih =>
    intro t t' ht hfold
    obtain ⟨t₁, hfirst, hrest⟩ := Option.bind_eq_some_iff.1 hfold
    have ht₁ := h a List.mem_cons_self t t₁ ht hfirst
    exact ih (fun b hb => h b (List.mem_cons_of_mem _ hb)) t₁ t' ht₁ hrest

theorem keepsOrder_fill {assignments : List Assignment} (h : ∀ a ∈ assignments, a.value.Ordered) :
    Table.KeepsOrder (fill assignments) :=
  keepsOrder_foldlM fun a ha => Table.keepsOrder_set a.path a.key a.range (h a ha)

theorem keepsOrder_addSection {entry : Header × List Assignment}
    (h : ∀ a ∈ entry.2, a.value.Ordered) : Table.KeepsOrder fun t => addSection t entry := by
  intro t t' ht hadd
  unfold addSection at hadd
  dsimp only at hadd
  split at hadd
  · exact Table.keepsOrder_appendTable _ _ _ (keepsOrder_fill h) t t' ht hadd
  · exact Table.keepsOrder_openTable _ _ _ (keepsOrder_fill h) t t' ht hadd

end Parser

/-- A document has all its names in order. -/
theorem Table.ordered_parse? {text : String} {t : Table} (h : Table.parse? text = some t) :
    t.toml.Ordered := by
  unfold Table.parse? at h
  obtain ⟨all, hall, h⟩ := Option.bind_eq_some_iff.1 h
  obtain ⟨top, htop, h⟩ := Option.bind_eq_some_iff.1 h
  have hvalues := Parser.ordered_statements hall
  obtain ⟨hfirst, hunder⟩ := Parser.mem_of_mem_sections all
  have hstart : top.toml.Ordered :=
    Parser.keepsOrder_fill (fun a ha => hvalues a (hfirst a ha)) _ top (ordered_empty .header) htop
  refine Parser.keepsOrder_foldlM (fun entry hentry => ?_) top t hstart h
  exact Parser.keepsOrder_addSection fun a ha => hvalues a (hunder entry hentry a ha)

end Toml

namespace Config

theorem map_fst_of_mapM {α β : Type} {f : String × α → Option (String × β)}
    (hf : ∀ e e', f e = some e' → e'.1 = e.1) {entries : List (String × α)}
    {entries' : List (String × β)} (h : entries.mapM f = some entries') :
    entries'.map (·.1) = entries.map (·.1) := by
  induction entries generalizing entries' with
  | nil =>
    cases h
    rfl
  | cons e rest ih =>
    rw [List.mapM_cons] at h
    obtain ⟨e', he, h⟩ := Option.bind_eq_some_iff.1 h
    obtain ⟨rest', hrest, h⟩ := Option.bind_eq_some_iff.1 h
    cases h
    rw [List.map_cons, List.map_cons, hf e e' he, ih hrest]

theorem ordered_of_mem_settings? {names : List String} {t : Toml} (h : t.Ordered)
    {settings : List (Option (TextRange × Toml))} (hsettings : settings? names t = some settings)
    {range : TextRange} {value : Toml} (hvalue : some (range, value) ∈ settings) : value.Ordered := by
  have hpositional {items : List (TextRange × Toml)} (each : ∀ item ∈ items, item.2.Ordered)
      (h : settings?.positional names items = some settings) : value.Ordered := by
    unfold settings?.positional at h
    split at h
    · cases h
      obtain ⟨item, hitem, hsome⟩ := List.mem_map.1 hvalue
      cases hsome
      exact each _ (List.mem_of_mem_take hitem)
    · cases h
  unfold settings? at hsettings
  split at hsettings
  · cases hsettings
    obtain ⟨name, -, hfind⟩ := List.mem_map.1 hvalue
    cases h with
    | table sorted each => exact each _ (Dict.mem_of_find? hfind)
  · cases h with
    | array each => exact hpositional each hsettings
  · cases h with
    | tables each => exact hpositional each hsettings
  · cases hsettings
    obtain ⟨name, -, hnone⟩ := List.mem_map.1 hvalue
    cases hnone
  · cases hsettings

theorem Source.nodup_overrides? {source : Source} {setting : Option (TextRange × Toml)}
    (h : ∀ range value, setting = some (range, value) → value.Ordered)
    {overrides : Dict String (Placed LogLevel)} (ho : source.overrides? setting = some overrides) :
    (overrides.map (·.1)).Nodup := by
  unfold overrides? at ho
  split at ho
  · cases ho
    exact .nil
  · next range origin members =>
    have hkeys := map_fst_of_mapM (fun e e' he => ?_) ho
    · rw [hkeys]
      have hmembers := h _ _ rfl
      cases hmembers with
      | table sorted each => exact Dict.nodup_keys sorted
    · obtain ⟨_, -, he⟩ := Option.bind_eq_some_iff.1 he
      cases he
      rfl
  · cases ho

/-- A file that is read sets no target twice. -/
theorem Source.distinct_of_read? {source : Source} {file : ConfigFile}
    (h : source.read? = some file) : file.sections.Distinct := by
  simp only [read?, Option.bind_eq_bind, Option.bind_eq_some_iff] at h
  obtain ⟨top, htop, imports, -, logging, hlogging, store, -, invocation, -, dispatcher, -, mqtt, -,
    h⟩ := h
  cases h
  have hordered := Toml.Table.ordered_parse? htop
  rintro l rfl
  unfold section? at hlogging
  split at hlogging
  · cases hlogging
  · next hfind =>
    obtain ⟨l', hl, hsome⟩ := Option.map_eq_some_iff.1 hlogging
    cases hsome
    unfold logging? at hl
    obtain ⟨settings, hsettings, hl⟩ := Option.bind_eq_some_iff.1 hl
    split at hl
    · obtain ⟨_, -, hl⟩ := Option.bind_eq_some_iff.1 hl
      obtain ⟨o, ho, hl⟩ := Option.bind_eq_some_iff.1 hl
      cases hl
      have hvalue := Toml.Table.ordered_of_find? hordered hfind
      refine source.nodup_overrides? ?_ ho
      rintro range value rfl
      exact ordered_of_mem_settings? hvalue hsettings (List.mem_cons_of_mem _ List.mem_cons_self)
    · cases hl

end Config

end DriverHub
