import DriverHub.Proofs.Config.Loading
import Mathlib.Data.List.Chain

/-! What a report of an import cycle tells. The files that are pending import one another in turn, from a
file at one of the first paths on, and one of them is met again: where they enter a cycle. A report has all
of them, those on the way to the cycle included. -/

namespace DriverHub.Config

open Relation (TransGen)

section

variable (tree : FileTree)

/-- Two files import each other in the end, so that a cycle of imports passes both. -/
def OnCycle (entry file : List String) : Prop :=
  TransGen (Imports tree) entry file ∧ TransGen (Imports tree) file entry

/-- A way along the imports from a first file into a cycle, and once around the cycle from the file where
it is entered. No file is passed twice. -/
structure Lasso (first : List String) (way : List (List String)) (entry : List String)
    (loop : List (List String)) : Prop where
  begins : (way ++ [entry]).head? = some first
  imports : (way ++ entry :: (loop ++ [entry])).IsChain (Imports tree)
  once : (way ++ entry :: loop).Nodup

/-- The files that are pending and the paths that are read next: none and the first paths in the beginning,
and with a file that is entered this file, too, and the paths that it imports. -/
inductive Entered (paths : List String) : List (List String) → List String → Prop
  | start : Entered paths [] paths
  | enter {pending : List (List String)} {others : List String} {path : String} {l : LoadedFile}
    (outer : Entered paths pending others) (read : path ∈ others) (file : fileAt? tree path = some l)
    (new : l.place ∉ pending) : Entered paths (l.place :: pending) l.file.importPaths

end

variable {tree : FileTree}

/-! ### Ways into a cycle -/

namespace Lasso

variable {first entry : List String} {way loop : List (List String)}

theorem pairwise (h : Lasso tree first way entry loop) :
    (way ++ entry :: (loop ++ [entry])).Pairwise (TransGen (Imports tree)) :=
  (h.imports.imp fun _ _ => TransGen.single).pairwise

theorem leads (h : Lasso tree first way entry loop) {file : List String} (hfile : file ∈ way) :
    TransGen (Imports tree) file entry :=
  (List.pairwise_append.1 h.pairwise).2.2 file hfile entry List.mem_cons_self

theorem onCycle (h : Lasso tree first way entry loop) {file : List String} (hfile : file ∈ entry :: loop) :
    OnCycle tree entry file := by
  obtain ⟨hentry, hloop⟩ := List.pairwise_cons.1 (List.pairwise_append.1 h.pairwise).2.1
  have haround : TransGen (Imports tree) entry entry := hentry entry (by simp)
  rcases List.mem_cons.1 hfile with rfl | hfile
  · exact ⟨haround, haround⟩
  · exact ⟨hentry file (List.mem_append_left _ hfile),
      (List.pairwise_append.1 hloop).2.2 file hfile entry List.mem_cons_self⟩

theorem eq_or_from_first (h : Lasso tree first way entry loop) {file : List String} (hfile : file ∈ way) :
    file = first ∨ TransGen (Imports tree) first file := by
  cases way with
  | nil => cases hfile
  | cons next rest =>
    obtain rfl : next = first := Option.some.inj h.begins
    rcases List.mem_cons.1 hfile with rfl | hfile
    · exact .inl rfl
    · exact .inr ((List.pairwise_cons.1 h.pairwise).1 file (List.mem_append_left _ hfile))

theorem first_mem (h : Lasso tree first way entry loop) : first ∈ way ++ entry :: loop := by
  have hupto : way ++ [entry] <+: way ++ entry :: loop := by simp
  exact hupto.subset (List.mem_of_mem_head? h.begins)

/-- All files are on the cycle just if the first one is: a file that leads to the cycle is on it if it is
imported from there. -/
theorem forall_onCycle_iff (h : Lasso tree first way entry loop) :
    (∀ file ∈ way ++ entry :: loop, OnCycle tree entry file) ↔ OnCycle tree entry first := by
  constructor
  · intro hall
    exact hall first h.first_mem
  · intro hfirst file hfile
    rcases List.mem_append.1 hfile with hfile | hfile
    · refine ⟨?_, h.leads hfile⟩
      rcases h.eq_or_from_first hfile with rfl | hfrom
      · exact hfirst.1
      · exact hfirst.1.trans hfrom
    · exact h.onCycle hfile

end Lasso

/-! ### The files that are pending -/

namespace Entered

variable {paths : List String} {pending : List (List String)} {others : List String}

theorem nodup (h : Entered tree paths pending others) : pending.Nodup := by
  induction h with
  | start => exact .nil
  | enter _ _ _ new ih => exact List.nodup_cons.2 ⟨new, ih⟩

theorem exists_path (h : Entered tree paths pending others) {place : List String} (hplace : place ∈ pending) :
    ∃ path, placeAt? tree path = some place := by
  induction h with
  | start => cases hplace
  | enter _ _ file _ ih =>
    rcases List.mem_cons.1 hplace with rfl | hplace
    · exact ⟨_, placeAt?_eq_some_iff.2 ⟨_, file, rfl⟩⟩
    · exact ih hplace

theorem isChain (h : Entered tree paths pending others) {path : String} (hpath : path ∈ others)
    {place : List String} (hplace : placeAt? tree path = some place) :
    (pending.reverse ++ [place]).IsChain (Imports tree) := by
  induction h generalizing path place with
  | start => exact .singleton place
  | @enter pending others outer l _ read file _ ih =>
    have hbefore := ih read (placeAt?_eq_some_iff.2 ⟨l, file, rfl⟩)
    rw [List.reverse_cons, List.append_assoc]
    exact List.isChain_append_cons_cons.2 ⟨hbefore, .of_mem file hpath hplace, .singleton place⟩

theorem exists_first (h : Entered tree paths pending others) {path : String} (hpath : path ∈ others)
    {place : List String} (hplace : placeAt? tree path = some place) :
    ∃ start ∈ paths, placeAt? tree start = (pending.reverse ++ [place]).head? := by
  induction h generalizing path place with
  | start => exact ⟨path, hpath, hplace⟩
  | @enter pending others outer l _ read file _ ih =>
    obtain ⟨start, hstart, hfirst⟩ := ih read (placeAt?_eq_some_iff.2 ⟨l, file, rfl⟩)
    refine ⟨start, hstart, ?_⟩
    rw [hfirst, List.reverse_cons, List.append_assoc, List.head?_append, List.head?_append]
    rfl

theorem exists_lasso (h : Entered tree paths pending others) {path : String} (hpath : path ∈ others)
    {place : List String} (hplace : placeAt? tree path = some place) (hmem : place ∈ pending) :
    ∃ start ∈ paths, ∃ first way loop, placeAt? tree start = some first ∧
      pending.reverse = way ++ place :: loop ∧ Lasso tree first way place loop := by
  obtain ⟨way, loop, hsplit⟩ := List.append_of_mem (List.mem_reverse.2 hmem)
  have hchain := h.isChain hpath hplace
  obtain ⟨start, hstart, hfirst⟩ := h.exists_first hpath hplace
  have hnodup := List.nodup_reverse.2 h.nodup
  rw [hsplit, List.append_assoc, List.cons_append] at hchain hfirst
  rw [hsplit] at hnodup
  have hbegins : (way ++ [place]).head? = placeAt? tree start := by
    rw [hfirst, List.head?_append, List.head?_append]
    rfl
  obtain ⟨first, hsome⟩ : ∃ first, (way ++ [place]).head? = some first := by
    rw [← Option.isSome_iff_exists, List.isSome_head?]
    simp
  exact ⟨start, hstart, first, way, loop, hbegins ▸ hsome, hsplit, hsome, hchain, hnodup⟩

end Entered

/-! ### Where loading finds a cycle -/

theorem loadAll_eq_error {pending : List (List String)} {loaded : List LoadedFile} {paths : List String}
    {e : LoadError} (h : loadAll tree pending loaded paths = .error e) :
    ∃ path ∈ paths, ∃ before, load tree pending before path = .error e := by
  induction paths generalizing loaded with
  | nil =>
    rw [loadAll] at h
    cases h
  | cons path rest ih =>
    rw [loadAll] at h
    cases hload : load tree pending loaded path with
    | error fault =>
      rw [hload] at h
      cases h
      exact ⟨path, List.mem_cons_self, loaded, hload⟩
    | ok middle =>
      rw [hload] at h
      obtain ⟨other, hother, before, hfail⟩ := ih h
      exact ⟨other, List.mem_cons_of_mem _ hother, before, hfail⟩

/-- A cycle is reported where a pending file is read again, or from inside a file that is entered. -/
theorem load_eq_cycle {pending stack : List (List String)} {loaded : List LoadedFile} {path : String}
    {place : List String} (h : load tree pending loaded path = .error (.cycle place stack)) :
    (tree.resolve path = .ok place ∧ place ∈ pending ∧ stack = pending) ∨
      ∃ l, fileAt? tree path = some l ∧ l.place ∉ pending ∧
        loadAll tree (l.place :: pending) loaded l.file.importPaths = .error (.cycle place stack) := by
  unfold load at h
  split at h
  · cases h
  · next goal hresolve =>
    split at h
    · cases h
    · split at h
      · next hpending =>
        cases h
        exact .inl ⟨hresolve, hpending, rfl⟩
      · next hnew =>
        split at h
        · cases h
        · next content hfind =>
          split at h
          · cases h
          · next file hread =>
            refine .inr ⟨⟨goal, file⟩, fileAt?_eq_some_iff.2 ⟨hresolve, content, hfind, hread⟩, hnew, ?_⟩
            split at h
            · next e hall =>
              cases h
              exact hall
            · cases h

/-- What is reported is what was pending when one of these files was to be read again. The induction is on
the files that are not pending. -/
theorem Entered.of_cycle {paths : List String} {pending : List (List String)} {others : List String}
    (h : Entered tree paths pending others) {loaded : List LoadedFile} {place : List String}
    {stack : List (List String)} (hcycle : loadAll tree pending loaded others = .error (.cycle place stack)) :
    ∃ rest, Entered tree paths stack rest ∧ place ∈ stack ∧
      ∃ path ∈ rest, placeAt? tree path = some place := by
  induction hsize : unread tree pending using Nat.strongRecOn generalizing pending others loaded with
  | _ size ih =>
    obtain ⟨path, hpath, before, hload⟩ := loadAll_eq_error hcycle
    rcases load_eq_cycle hload with ⟨hresolve, hpending, rfl⟩ | ⟨l, hfile, hnew, hall⟩
    · obtain ⟨other, hother⟩ := h.exists_path hpending
      obtain ⟨l, hfile, hplace⟩ := placeAt?_eq_some_iff.1 hother
      have hsame : tree.resolve path = tree.resolve other := by
        rw [hresolve, (fileAt?_eq_some_iff.1 hfile).1, hplace]
      exact ⟨others, h, hpending, path, hpath, (placeAt?_congr hsame).trans hother⟩
    · exact ih _ (hsize ▸ unread_lt_of_fileAt? hfile hnew) (h.enter hpath hfile hnew) hall rfl

/-- A report of a cycle lists the files of a lasso from a file at one of the first paths on, and counts them
all. The reported file and those after it are on a cycle; the files on the way there are on it, too, just if
the first file is. -/
theorem cycle_precise_iff {paths : List String} {place : List String} {pending : List (List String)}
    (h : loadFiles tree paths = .error (.cycle place pending)) :
    ∃ start ∈ paths, ∃ first way loop, placeAt? tree start = some first ∧
      pending.reverse = way ++ place :: loop ∧ Lasso tree first way place loop ∧
      (∀ file ∈ place :: loop, OnCycle tree place file) ∧
      ((∀ file ∈ pending, OnCycle tree place file) ↔ OnCycle tree place first) ∧
      (LoadError.cycle place pending).text tree =
        "Import cycle detected at '" ++ tree.pathTo place ++ "': involves " ++
          Digits.natText (way.length + (place :: loop).length) ++ " file(s)" := by
  have hall : loadAll tree [] [] paths = .error (.cycle place pending) := by
    unfold loadFiles at h
    cases hresult : loadAll tree [] [] paths with
    | error e =>
      rw [hresult] at h
      cases h
      rfl
    | ok loaded =>
      rw [hresult] at h
      cases h
  have hnothing : Entered tree paths [] paths := .start
  obtain ⟨rest, hentered, hmem, path, hpath, hplace⟩ := hnothing.of_cycle hall
  obtain ⟨start, hstart, first, way, loop, hfirst, hsplit, hlasso⟩ :=
    hentered.exists_lasso hpath hplace hmem
  refine ⟨start, hstart, first, way, loop, hfirst, hsplit, hlasso, fun file hfile => hlasso.onCycle hfile,
    ?_, ?_⟩
  · rw [← hlasso.forall_onCycle_iff, ← hsplit]
    simp only [List.mem_reverse]
  · have hlength : pending.length = way.length + (place :: loop).length := by
      rw [← List.length_reverse, hsplit, List.length_append]
    rw [← hlength]
    rfl

/-- A file that imports one of two files that import each other. -/
def leadIn : FileTree where
  files := [(["a.toml"], "imports = [\"b.toml\"]"), (["b.toml"], "imports = [\"a.toml\"]"),
    (["main.toml"], "imports = [\"a.toml\"]")]

/-- Each file of it with its path and the path of its only import. -/
def leadInPaths : List (List String × String × String) :=
  [(["a.toml"], "/a.toml", "/b.toml"), (["b.toml"], "/b.toml", "/a.toml"),
    (["main.toml"], "/main.toml", "/a.toml")]

theorem exists_leadIn : ∀ f ∈ leadInPaths, ∃ l, fileAt? leadIn f.2.1 = some l ∧ l.place = f.1 ∧
    l.file.importPaths = [f.2.2] := by
  have hall : ∀ f ∈ leadInPaths,
      (fileAt? leadIn f.2.1).map (fun l => (l.place, l.file.importPaths)) = some (f.1, [f.2.2]) := by
    decide +kernel
  intro f hf
  obtain ⟨l, hl, heq⟩ := Option.map_eq_some_iff.1 (hall f hf)
  exact ⟨l, hl, congrArg Prod.fst heq, congrArg Prod.snd heq⟩

theorem loadFiles_leadIn : loadFiles leadIn ["/main.toml"] =
    .error (.cycle ["a.toml"] [["b.toml"], ["a.toml"], ["main.toml"]]) := by
  obtain ⟨a, ha, haPlace, haImports⟩ := exists_leadIn (["a.toml"], "/a.toml", "/b.toml") (by decide)
  obtain ⟨b, hb, hbPlace, hbImports⟩ := exists_leadIn (["b.toml"], "/b.toml", "/a.toml") (by decide)
  obtain ⟨main, hmain, hmainPlace, hmainImports⟩ :=
    exists_leadIn (["main.toml"], "/main.toml", "/a.toml") (by decide)
  simp [loadFiles, loadAll, load_eq ha, load_eq hb, load_eq hmain, haPlace, hbPlace, hmainPlace, haImports,
    hbImports, hmainImports, Except.map]

/-- The cycle of two files is reported as one of three. -/
theorem cycle_precise_iff_leadIn :
    loadFiles leadIn ["/main.toml"] =
        .error (.cycle ["a.toml"] [["b.toml"], ["a.toml"], ["main.toml"]]) ∧
      OnCycle leadIn ["a.toml"] ["a.toml"] ∧ OnCycle leadIn ["a.toml"] ["b.toml"] ∧
      ((∀ file ∈ [["b.toml"], ["a.toml"], ["main.toml"]], OnCycle leadIn ["a.toml"] file) ↔
        OnCycle leadIn ["a.toml"] ["main.toml"]) ∧
      (LoadError.cycle ["a.toml"] [["b.toml"], ["a.toml"], ["main.toml"]]).text leadIn =
        "Import cycle detected at 'a.toml': involves 3 file(s)" := by
  obtain ⟨start, hstart, first, way, loop, hfirst, hsplit, -, hcycle, hiff, htext⟩ :=
    cycle_precise_iff loadFiles_leadIn
  obtain ⟨rfl, rfl⟩ : way = [["main.toml"]] ∧ loop = [["b.toml"]] := by
    simpa [List.cons_eq_append_iff] using hsplit
  obtain rfl := List.mem_singleton.1 hstart
  obtain rfl : first = ["main.toml"] := by
    have hmain : placeAt? leadIn "/main.toml" = some ["main.toml"] := by decide +kernel
    exact Option.some.inj (hfirst.symm.trans hmain)
  refine ⟨loadFiles_leadIn, hcycle _ (by simp), hcycle _ (by simp), hiff, htext.trans ?_⟩
  decide +kernel

theorem not_imports_main_leadIn (place : List String) : ¬ Imports leadIn place ["main.toml"] := by
  have hapart : leadIn.Apart := by
    unfold FileTree.Apart
    decide
  have helsewhere : ∀ f ∈ leadInPaths, placeAt? leadIn f.2.2 ≠ some ["main.toml"] := by decide +kernel
  have hlisted : ∀ f ∈ leadIn.files, ∃ g ∈ leadInPaths, g.1 = f.1 := by decide
  intro himports
  have himporter := himports
  obtain ⟨path, l, -, hfile, rfl, -⟩ := himporter
  obtain ⟨-, content, hfind, -⟩ := fileAt?_eq_some_iff.1 hfile
  obtain ⟨f, hf, hsame⟩ := hlisted _ (Dict.mem_of_find? hfind)
  obtain ⟨l', hfile', hplace, hpaths⟩ := exists_leadIn f hf
  have hplaces : l'.place = l.place := hplace.trans hsame
  rw [← hplaces, imports_iff hapart hfile', hpaths] at himports
  obtain ⟨next, hnext, hsome⟩ := himports
  exact helsewhere f hf (List.mem_singleton.1 hnext ▸ hsome)

/-- The file that leads to the cycle is in the report, though nothing imports it. -/
theorem leadIn_counted :
    loadFiles leadIn ["/main.toml"] =
        .error (.cycle ["a.toml"] [["b.toml"], ["a.toml"], ["main.toml"]]) ∧
      ¬ OnCycle leadIn ["a.toml"] ["main.toml"] := by
  refine ⟨loadFiles_leadIn, fun hcycle => ?_⟩
  obtain ⟨place, -, himports⟩ := Relation.TransGen.tail'_iff.1 hcycle.1
  exact not_imports_main_leadIn place himports

end DriverHub.Config
