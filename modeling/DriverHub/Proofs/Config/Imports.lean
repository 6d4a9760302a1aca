import DriverHub.Config.Import
import DriverHub.Proofs.Config.Merging
import DriverHub.Proofs.FileTree
import DriverHub.Proofs.Toml.Ordered
import Mathlib.Data.List.DropRight
import Mathlib.Logic.Relation

/-! Files and what they import. The files with their imports are a graph on places, whatever paths lead
to them; loading walks it from the first paths, and what it has loaded is always in the order of the
imports. -/

namespace DriverHub.Config

/-! ### Reading at one path or another -/

theorem rel_bind {α α' β β' : Type} {r : α → α' → Prop} {s : β → β' → Prop} {x : Option α}
    {y : Option α'} {f : α → Option β} {g : α' → Option β'} (h : Option.Rel r x y)
    (hfg : ∀ a b, r a b → Option.Rel s (f a) (g b)) : Option.Rel s (x.bind f) (y.bind g) := by
  cases h with
  | none => exact .none
  | some hr => exact hfg _ _ hr

theorem rel_self {α : Type} (x : Option α) : Option.Rel (· = ·) x x := by
  cases x with
  | none => exact .none
  | some a => exact .some rfl

/-- Both or none are there. -/
def Alike {α β : Type} : Option α → Option β → Prop := Option.Rel fun _ _ => True

namespace Source

variable (a b : Source)

theorem alike_placed? {α : Type} (read : Toml → Option α) (setting : Option (TextRange × Toml)) :
    Alike (placed? a read setting) (placed? b read setting) := by
  cases setting with
  | none => exact .some trivial
  | some item => exact rel_bind (rel_self (read item.2)) fun _ _ _ => .some trivial

theorem alike_overrides? (setting : Option (TextRange × Toml)) :
    Alike (a.overrides? setting) (b.overrides? setting) := by
  unfold overrides?
  split
  · exact .some trivial
  · next members =>
    induction members with
    | nil => exact .some trivial
    | cons m rest ih =>
      rw [List.mapM_cons, List.mapM_cons]
      refine rel_bind (r := fun _ _ => True) ?_ fun _ _ _ => rel_bind ih fun _ _ _ => .some trivial
      exact rel_bind (rel_self (level? m.2.2)) fun _ _ _ => .some trivial
  · exact .none

theorem alike_section? {α β : Type} {read : Toml → Option α} {read' : Toml → Option β} (name : String)
    (top : Toml.Table) (h : ∀ t, Alike (read t) (read' t)) :
    Alike (section? read name top) (section? read' name top) := by
  unfold section?
  split
  · exact .some trivial
  · next value _ =>
    rw [Option.map_eq_bind, Option.map_eq_bind]
    exact rel_bind (h value) fun _ _ _ => .some trivial

theorem alike_logging? (t : Toml) : Alike (a.logging? t) (b.logging? t) := by
  refine rel_bind (rel_self (settings? ["level", "overrides"] t)) ?_
  rintro settings _ rfl
  split
  · exact rel_bind (alike_placed? a b _ _) fun _ _ _ =>
      rel_bind (alike_overrides? a b _) fun _ _ _ => .some trivial
  · exact .none

theorem alike_store? (t : Toml) : Alike (a.store? t) (b.store? t) := by
  refine rel_bind (rel_self (settings? ["path"] t)) ?_
  rintro settings _ rfl
  split
  · exact rel_bind (alike_placed? a b _ _) fun _ _ _ => .some trivial
  · exact .none

theorem alike_invocation? (t : Toml) : Alike (a.invocation? t) (b.invocation? t) := by
  refine rel_bind (rel_self (settings? ["timeout_secs"] t)) ?_
  rintro settings _ rfl
  split
  · exact rel_bind (alike_placed? a b _ _) fun _ _ _ => .some trivial
  · exact .none

theorem alike_dispatcher? (t : Toml) : Alike (a.dispatcher? t) (b.dispatcher? t) := by
  refine rel_bind
    (rel_self (settings? ["delivery_attempts", "retry_delay_ms", "pending_retry_secs"] t)) ?_
  rintro settings _ rfl
  split
  · exact rel_bind (alike_placed? a b _ _) fun _ _ _ =>
      rel_bind (alike_placed? a b _ _) fun _ _ _ =>
      rel_bind (alike_placed? a b _ _) fun _ _ _ => .some trivial
  · exact .none

theorem alike_mqtt? (t : Toml) : Alike (a.mqtt? t) (b.mqtt? t) := by
  refine rel_bind
    (rel_self (settings? ["host", "port", "client_id", "username", "password"] t)) ?_
  rintro settings _ rfl
  split
  · exact rel_bind (alike_placed? a b _ _) fun _ _ _ =>
      rel_bind (alike_placed? a b _ _) fun _ _ _ =>
      rel_bind (alike_placed? a b _ _) fun _ _ _ =>
      rel_bind (alike_placed? a b _ _) fun _ _ _ =>
      rel_bind (alike_placed? a b _ _) fun _ _ _ => .some trivial
  · exact .none

theorem rel_read? {a b : Source} (h : a.text = b.text) :
    Option.Rel (fun file file' : ConfigFile => file.imports = file'.imports) a.read? b.read? := by
  unfold read?
  rw [h]
  refine rel_bind (rel_self (Toml.Table.parse? b.text)) ?_
  rintro top _ rfl
  refine rel_bind (rel_self (imports? top)) ?_
  rintro imports _ rfl
  exact rel_bind (alike_section? "logging" top (alike_logging? a b)) fun _ _ _ =>
    rel_bind (alike_section? "store" top (alike_store? a b)) fun _ _ _ =>
    rel_bind (alike_section? "invocation" top (alike_invocation? a b)) fun _ _ _ =>
    rel_bind (alike_section? "dispatcher" top (alike_dispatcher? a b)) fun _ _ _ =>
    rel_bind (alike_section? "mqtt" top (alike_mqtt? a b)) fun _ _ _ => .some rfl

theorem source_of_read? {source : Source} {file : ConfigFile} (h : source.read? = some file) :
    file.source = source := by
  simp only [read?, Option.bind_eq_bind, Option.bind_eq_some_iff] at h
  obtain ⟨_, -, _, -, _, -, _, -, _, -, _, -, _, -, h⟩ := h
  cases h
  rfl

end Source

/-! ### Paths of imports -/

open FileTree in
theorem start_of_single {tree : FileTree} {path name : String} (hnames : names path = [name]) :
    tree.start path = tree.home := by
  have hnot : ¬ isAbsolute path = true := fun habsolute => ((isAbsolute_iff hnames).1 habsolute).2 rfl
  exact if_neg hnot

open FileTree in
theorem start_of_names {tree : FileTree} {path first : String} {rest : List String}
    (hnames : names path = first :: rest) (hrest : rest ≠ []) :
    tree.start path = if first = "" then [] else tree.home := by
  have habsolute : isAbsolute path = true ↔ first = "" := by
    rw [isAbsolute_iff hnames]
    exact and_iff_left hrest
  unfold start
  simp only [habsolute]

open FileTree in
theorem resolve_under {tree : FileTree} {base first : String} {rest place : List String}
    (hbase : names base = first :: rest)
    (hwalk : tree.walk (if first = "" then [] else tree.home) (first :: rest) = .ok place) (path : String) :
    tree.resolve (base ++ "/" ++ path) = tree.walk place (names path) := by
  have hnames : names (base ++ "/" ++ path) = first :: (rest ++ names path) := by
    rw [names_append, hbase, List.cons_append]
  have hstart := @start_of_names tree _ _ _ hnames (List.append_ne_nil_of_right_ne_nil _ (names_ne_nil path))
  rw [resolve, if_neg (by simp), hstart, hnames, ← List.cons_append, walk_append, hwalk]
  rfl

/-- The names of a directory, less those at the end that stay where they are. -/
def trimmed (parts : List String) : List String := parts.rdropWhile fun part => part = "" ∨ part = "."

theorem walk_trimmed {tree : FileTree} {start goal parts : List String}
    (h : tree.walk start parts = .ok goal) : tree.walk start (trimmed parts) = .ok goal := by
  rw [← List.rdropWhile_append_rtakeWhile (p := fun part => part = "" ∨ part = ".") (l := parts),
    FileTree.walk_append] at h
  change (tree.walk start (trimmed parts)).bind _ = _ at h
  cases hwalk : tree.walk start (trimmed parts) with
  | error fault =>
    rw [hwalk] at h
    cases h
  | ok middle =>
    rw [hwalk] at h
    rw [FileTree.walk_eq_of_still tree (fun name hname => ?_) h]
    simpa using List.mem_rtakeWhile_imp hname

theorem not_still_of_getLast?_trimmed {parts : List String} {name : String}
    (h : (trimmed parts).getLast? = some name) : ¬ (name = "" ∨ name = ".") := by
  have hne : trimmed parts ≠ [] := by
    intro hnil
    rw [hnil] at h
    cases h
  rw [List.getLast?_eq_some_getLast hne] at h
  cases h
  exact fun hstill => List.rdropWhile_last_not _ _ hne (decide_eq_true hstill)

theorem directoryOf_eq (path : String) : directoryOf path =
    match trimmed (FileTree.names path).dropLast, (FileTree.names path).dropLast with
    | [], "" :: _ => "/"
    | [], "." :: _ => "."
    | [], _ => ""
    | kept, _ => String.intercalate "/" kept := rfl

section

open FileTree

variable {tree : FileTree} {importer path first last : String} {rest : List String}
  (hrelative : isAbsolute path = false)
include hrelative

theorem importPath_of_directory {base : String} (hbase : directoryOf importer = base) (hempty : base ≠ "")
    (htop : base ≠ "/") : importPath importer path = base ++ "/" ++ path := by
  unfold importPath
  simp only [hrelative, hbase]
  rw [if_neg (by simpa using hempty), if_neg htop]

theorem resolve_importPath_single (hnames : names importer = [last]) :
    (path = "" ∧ importPath importer path = "") ∨
      tree.resolve (importPath importer path) = tree.walk tree.home (names path) := by
  have hbase : directoryOf importer = "" := by
    rw [directoryOf_eq, hnames]
    rfl
  have himport : importPath importer path = path := if_pos (.inr hbase)
  rw [himport]
  by_cases hpath : path = ""
  · exact .inl ⟨hpath, hpath⟩
  · have hstart : tree.start path = tree.home := by
      rw [start, hrelative]
      rfl
    rw [resolve, if_neg (by simpa using hpath), hstart]
    exact .inr rfl

/-- Beside a file whose directory is the one that its path starts from. -/
theorem resolve_importPath_still (hnames : names importer = first :: rest ++ [last])
    (htrimmed : trimmed (first :: rest) = [])
    (hdirectory : tree.isDirectory (if first = "" then [] else tree.home) = true) :
    tree.resolve (importPath importer path) =
      tree.walk (if first = "" then [] else tree.home) (names path) := by
  have hdir := directoryOf_eq importer
  rw [hnames, List.dropLast_concat, htrimmed] at hdir
  have hstill : first = "" ∨ first = "." := by
    simpa using List.rdropWhile_eq_nil_iff.1 htrimmed first List.mem_cons_self
  have hwalk := walk_still tree hdirectory hstill []
  rcases hstill with rfl | rfl
  · have hbase : directoryOf importer = "/" := hdir
    have himport : importPath importer path = "" ++ "/" ++ path := by
      unfold importPath
      simp [hrelative, hbase]
    rw [himport]
    exact resolve_under (by decide) hwalk path
  · have hbase : directoryOf importer = "." := hdir
    rw [importPath_of_directory hrelative hbase (by decide) (by decide)]
    exact resolve_under (by decide) hwalk path

theorem resolve_importPath_kept (hnames : names importer = first :: rest ++ [last]) {k : String}
    {kept goal : List String} (htrimmed : trimmed (first :: rest) = k :: kept)
    (hwalk : tree.walk (if first = "" then [] else tree.home) (k :: kept) = .ok goal) :
    tree.resolve (importPath importer path) = tree.walk goal (names path) := by
  have hdir := directoryOf_eq importer
  rw [hnames, List.dropLast_concat, htrimmed] at hdir
  have hupto : k :: kept <+: first :: rest := htrimmed ▸ List.rdropWhile_prefix _ _
  obtain rfl : k = first := (List.cons_prefix_cons.1 hupto).1
  have hbase := names_intercalate (List.cons_ne_nil k kept) fun part hpart =>
    not_mem_of_mem_names (hnames ▸ List.mem_append_left _ (hupto.subset hpart))
  have hlast : (k :: kept).getLast? ≠ some "" := fun hempty =>
    not_still_of_getLast?_trimmed (htrimmed ▸ hempty) (.inl rfl)
  have hne {base : String} (hempty : (names base).getLast? = some "") :
      String.intercalate "/" (k :: kept) ≠ base := by
    rintro rfl
    exact hlast (hbase ▸ hempty)
  rw [importPath_of_directory hrelative hdir (hne (by decide)) (hne (by decide))]
  exact resolve_under hbase hwalk path

/-- The directory of an imported file is that of the importing file, for a path that is not
absolute. -/
theorem resolve_importPath (h : tree.Apart) {content : String} {place : List String}
    (hresolve : tree.resolve importer = .ok place) (hfile : Dict.find? place tree.files = some content) :
    (path = "" ∧ importPath importer path = "") ∨
      tree.resolve (importPath importer path) = tree.walk place.dropLast (names path) := by
  obtain ⟨parts, last, hnames⟩ : ∃ parts last, names importer = parts ++ [last] :=
    ⟨_, _, (List.dropLast_append_getLast (names_ne_nil importer)).symm⟩
  have hwalk : tree.walk (tree.start importer) (parts ++ [last]) = .ok place := by
    unfold resolve at hresolve
    split at hresolve
    · cases hresolve
    · rwa [hnames] at hresolve
  obtain ⟨hparts, hdirectory⟩ := h.walk_concat hwalk hfile
  cases parts with
  | nil =>
    rw [start_of_single hnames] at hparts
    rw [← Except.ok.inj hparts]
    exact resolve_importPath_single hrelative hnames
  | cons first rest =>
    right
    rw [start_of_names hnames (by simp)] at hparts
    have hkept := walk_trimmed hparts
    cases htrimmed : trimmed (first :: rest) with
    | nil =>
      rw [htrimmed] at hkept
      rw [← Except.ok.inj hkept] at hdirectory ⊢
      exact resolve_importPath_still hrelative hnames htrimmed hdirectory
    | cons k kept =>
      rw [htrimmed] at hkept
      exact resolve_importPath_kept hrelative hnames htrimmed hkept

end

/-! ### The graph -/

open Relation (TransGen)

section

variable (tree : FileTree)

/-- The file at a path, if there is one that can be read. -/
def fileAt? (path : String) : Option LoadedFile :=
  match tree.resolve path with
  | .error _ => none
  | .ok place => do
    let content ← Dict.find? place tree.files
    let file ← Source.read? ⟨path, content⟩
    return ⟨place, file⟩

def placeAt? (path : String) : Option (List String) := (fileAt? tree path).map (·.place)

/-- The paths that are met from some first ones on. -/
inductive Reachable (paths : List String) : String → Prop
  | start {path : String} (first : path ∈ paths) : Reachable paths path
  | next {path next : String} {l : LoadedFile} (met : Reachable paths path)
    (file : fileAt? tree path = some l) (imported : next ∈ l.file.importPaths) : Reachable paths next

/-- The file at one place imports the one at another. -/
def Imports (a b : List String) : Prop :=
  ∃ path l next, fileAt? tree path = some l ∧ l.place = a ∧ next ∈ l.file.importPaths ∧
    placeAt? tree next = some b

/-- No file can be read at the path, or it imports itself in the end. -/
def Faulty (path : String) : Prop :=
  fileAt? tree path = none ∨ ∃ place, placeAt? tree path = some place ∧ TransGen (Imports tree) place place

/-- Files that each come once, after those that they import. -/
inductive InOrder : List LoadedFile → Prop
  | nil : InOrder []
  | concat {files : List LoadedFile} {l : LoadedFile} {path : String} (before : InOrder files)
    (file : fileAt? tree path = some l) (new : l.place ∉ files.map (·.place))
    (imports : ∀ next ∈ l.file.importPaths, ∃ place ∈ files.map (·.place), placeAt? tree next = some place) :
    InOrder (files ++ [l])

end

section

variable {tree : FileTree}

theorem fileAt?_eq_some_iff {path : String} {l : LoadedFile} : fileAt? tree path = some l ↔
    tree.resolve path = .ok l.place ∧
      ∃ content, Dict.find? l.place tree.files = some content ∧ Source.read? ⟨path, content⟩ = some l.file := by
  obtain ⟨place, file⟩ := l
  unfold fileAt?
  split
  · next hresolve => simp [hresolve]
  · next hresolve =>
    simp only [hresolve, Option.bind_eq_bind, Option.bind_eq_some_iff, Option.pure_def, Option.some.injEq,
      LoadedFile.mk.injEq, Except.ok.injEq]
    constructor
    · rintro ⟨content, hcontent, file, hfile, rfl, rfl⟩
      exact ⟨rfl, content, hcontent, hfile⟩
    · rintro ⟨rfl, content, hcontent, hfile⟩
      exact ⟨content, hcontent, file, hfile, rfl, rfl⟩

theorem placeAt?_eq_some_iff {path : String} {place : List String} : placeAt? tree path = some place ↔
    ∃ l, fileAt? tree path = some l ∧ l.place = place := Option.map_eq_some_iff

/-- Which file can be read depends on the place only. -/
theorem placeAt?_congr {a b : String} (h : tree.resolve a = tree.resolve b) :
    placeAt? tree a = placeAt? tree b := by
  unfold placeAt? fileAt?
  rw [h]
  split
  · rfl
  · next place _ =>
    cases Dict.find? place tree.files with
    | none => rfl
    | some content =>
      have hrel := Source.rel_read? (a := ⟨a, content⟩) (b := ⟨b, content⟩) rfl
      simp only [Option.bind_eq_bind, Option.bind_some]
      generalize Source.read? ⟨a, content⟩ = atA, Source.read? ⟨b, content⟩ = atB at hrel ⊢
      cases hrel with
      | none => rfl
      | some _ => rfl

theorem imports_eq {a b : String} {l l' : LoadedFile} (ha : fileAt? tree a = some l)
    (hb : fileAt? tree b = some l') (hplace : l.place = l'.place) : l.file.imports = l'.file.imports := by
  obtain ⟨-, content, hcontent, hread⟩ := fileAt?_eq_some_iff.1 ha
  obtain ⟨-, content', hcontent', hread'⟩ := fileAt?_eq_some_iff.1 hb
  obtain rfl : content = content' := by
    rw [hplace, hcontent'] at hcontent
    exact (Option.some.inj hcontent).symm
  have hrel := Source.rel_read? (a := ⟨a, content⟩) (b := ⟨b, content⟩) rfl
  rw [hread, hread'] at hrel
  cases hrel with
  | some himports => exact himports

theorem importPaths_eq {path : String} {l : LoadedFile} (h : fileAt? tree path = some l) :
    l.file.importPaths = l.file.imports.map (importPath path) := by
  obtain ⟨-, content, -, hread⟩ := fileAt?_eq_some_iff.1 h
  rw [ConfigFile.importPaths, Source.source_of_read? hread]

/-- What a file imports does not depend on the path that leads to it. -/
theorem placeAt?_importPath (h : tree.Apart) {a b : String} {l l' : LoadedFile}
    (ha : fileAt? tree a = some l) (hb : fileAt? tree b = some l') (hplace : l.place = l'.place)
    (path : String) : placeAt? tree (importPath a path) = placeAt? tree (importPath b path) := by
  obtain ⟨hresolve, content, hcontent, -⟩ := fileAt?_eq_some_iff.1 ha
  obtain ⟨hresolve', content', hcontent', -⟩ := fileAt?_eq_some_iff.1 hb
  cases habsolute : FileTree.isAbsolute path with
  | true =>
    have hself (importer : String) : importPath importer path = path := if_pos (.inl habsolute)
    rw [hself, hself]
  | false =>
    have hempty : placeAt? tree "" = none := rfl
    -- an empty path leads nowhere, or to the directory, where no file is
    have hnone {importer : String} {place : List String}
        (hpath : tree.resolve importer = tree.walk place (FileTree.names "")) :
        placeAt? tree importer = none := by
      rw [← Option.not_isSome_iff_eq_none, Option.isSome_iff_exists]
      rintro ⟨goal, hgoal⟩
      obtain ⟨l, hl, rfl⟩ := placeAt?_eq_some_iff.1 hgoal
      obtain ⟨hok, content, hfind, -⟩ := fileAt?_eq_some_iff.1 hl
      rw [hpath] at hok
      have hlast : tree.walk place ([] ++ [""]) = .ok l.place := hok
      obtain ⟨hstay, hdirectory⟩ := h.walk_concat hlast hfind
      have hgoal : l.place = place := FileTree.walk_eq_of_still tree (by decide) hok
      rw [← Except.ok.inj hstay, ← hgoal, h _ (Dict.mem_of_find? hfind)] at hdirectory
      cases hdirectory
    rcases resolve_importPath habsolute h hresolve hcontent with ⟨rfl, heq⟩ | hwalk <;>
      rcases resolve_importPath habsolute h hresolve' hcontent' with ⟨hpath, heq'⟩ | hwalk'
    · rw [heq, heq']
    · rw [heq, hempty, hnone hwalk']
    · subst hpath
      rw [heq', hempty, hnone hwalk]
    · refine placeAt?_congr ?_
      rw [hwalk, hwalk', hplace]

/-- The imports of a file can be read at any path that leads to it. -/
theorem imports_iff (h : tree.Apart) {path : String} {l : LoadedFile} (hfile : fileAt? tree path = some l)
    {place : List String} :
    Imports tree l.place place ↔ ∃ next ∈ l.file.importPaths, placeAt? tree next = some place := by
  constructor
  · rintro ⟨other, l', next, hother, hplace, hnext, hsome⟩
    rw [importPaths_eq hother, imports_eq hother hfile hplace] at hnext
    obtain ⟨name, hname, rfl⟩ := List.mem_map.1 hnext
    refine ⟨importPath path name, ?_, ?_⟩
    · rw [importPaths_eq hfile]
      exact List.mem_map_of_mem hname
    · rw [← placeAt?_importPath h hother hfile hplace, hsome]
  · rintro ⟨next, hnext, hsome⟩
    exact ⟨path, l, next, hfile, rfl, hnext, hsome⟩

end

end DriverHub.Config
