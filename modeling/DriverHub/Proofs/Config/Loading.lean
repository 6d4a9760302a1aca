import DriverHub.Proofs.Config.Imports

/-! Loading walks the graph of imports. What it has loaded stays in the order of the imports, and
nothing that is pending gets loaded; so it fails only at a path where nothing can be read, or at a file
that is among its own imports. -/

namespace DriverHub.Config

open Relation (TransGen)

/-! ### Files in the order of their imports -/

section

variable {tree : FileTree}

theorem Reachable.trans {paths others : List String} (h : ∀ path ∈ paths, Reachable tree others path)
    {path : String} (hpath : Reachable tree paths path) : Reachable tree others path := by
  induction hpath with
  | start first => exact h _ first
  | next _ file imported ih => exact ih.next file imported

theorem Faulty.transGen {path : String} (h : Faulty tree path) {place : List String}
    (hplace : placeAt? tree path = some place) : TransGen (Imports tree) place place := by
  rcases h with hnone | ⟨other, hother, hcycle⟩
  · rw [placeAt?, hnone] at hplace
    cases hplace
  · rw [hplace] at hother
    cases hother
    exact hcycle

theorem Imports.of_mem {path next : String} {l : LoadedFile} {place : List String}
    (hfile : fileAt? tree path = some l) (hnext : next ∈ l.file.importPaths)
    (hplace : placeAt? tree next = some place) : Imports tree l.place place :=
  ⟨path, l, next, hfile, rfl, hnext, hplace⟩

namespace InOrder

theorem nodup {files : List LoadedFile} (h : InOrder tree files) : (files.map (·.place)).Nodup := by
  induction h with
  | nil => exact .nil
  | concat before file new imports ih =>
    rw [List.map_append, List.map_singleton]
    exact List.nodup_append.2 ⟨ih, List.nodup_singleton _, by
      rintro place hplace _ hsingle rfl
      exact new (List.mem_singleton.1 hsingle ▸ hplace)⟩

theorem exists_path {files : List LoadedFile} (h : InOrder tree files) {l : LoadedFile} (hl : l ∈ files) :
    ∃ path, fileAt? tree path = some l := by
  induction h with
  | nil => cases hl
  | concat before file new imports ih =>
    rcases List.mem_append.1 hl with hl | hl
    · exact ih hl
    · obtain rfl := List.mem_singleton.1 hl
      exact ⟨_, file⟩

theorem closed {files : List LoadedFile} (h : InOrder tree files) (hapart : tree.Apart)
    {before after : List LoadedFile} {l l' : LoadedFile} (hsplit : files = before ++ l' :: after)
    {path next : String} (hfile : fileAt? tree path = some l) (hplace : l.place = l'.place)
    (hnext : next ∈ l.file.importPaths) :
    ∃ place ∈ before.map (·.place), placeAt? tree next = some place := by
  induction h generalizing after with
  | nil => simp at hsplit
  | @concat files last at_ _ file _ imports ih =>
    rcases List.eq_nil_or_concat after with rfl | ⟨rest, last', rfl⟩
    · obtain ⟨rfl, hlast⟩ := List.append_inj' hsplit rfl
      obtain rfl : last = l' := List.singleton_inj.1 hlast
      rw [importPaths_eq hfile, imports_eq hfile file hplace] at hnext
      obtain ⟨import_, himport, rfl⟩ := List.mem_map.1 hnext
      rw [placeAt?_importPath hapart hfile file hplace]
      refine imports _ ?_
      rw [importPaths_eq file]
      exact List.mem_map_of_mem himport
    · rw [List.concat_eq_append, ← List.cons_append, ← List.append_assoc] at hsplit
      exact ih (List.append_inj' hsplit rfl).1

theorem before {files : List LoadedFile} (h : InOrder tree files) (hapart : tree.Apart)
    {before after : List LoadedFile} {l : LoadedFile} (hsplit : files = before ++ l :: after)
    {place : List String} (himports : TransGen (Imports tree) l.place place) :
    place ∈ before.map (·.place) := by
  induction himports with
  | single himport =>
    obtain ⟨path, l', next, hfile, hplace, hnext, hgoal⟩ := himport
    obtain ⟨goal, hmem, hsome⟩ := h.closed hapart hsplit hfile hplace hnext
    rw [hgoal] at hsome
    cases hsome
    exact hmem
  | tail _ himport ih =>
    obtain ⟨path, l', next, hfile, hplace, hnext, hgoal⟩ := himport
    obtain ⟨m, hm, hmplace⟩ := List.mem_map.1 ih
    obtain ⟨first, rest, rfl⟩ := List.append_of_mem hm
    have hsplit' : files = first ++ m :: (rest ++ l :: after) := by
      rw [hsplit, List.append_assoc, List.cons_append]
    obtain ⟨goal, hmem, hsome⟩ := h.closed hapart hsplit' hfile (hplace.trans hmplace.symm) hnext
    rw [hgoal] at hsome
    cases hsome
    rw [List.map_append]
    exact List.mem_append_left _ hmem

theorem acyclic {files : List LoadedFile} (h : InOrder tree files) (hapart : tree.Apart)
    {place : List String} (hmem : place ∈ files.map (·.place)) : ¬ TransGen (Imports tree) place place := by
  intro hcycle
  obtain ⟨l, hl, rfl⟩ := List.mem_map.1 hmem
  obtain ⟨before, after, hsplit⟩ := List.append_of_mem hl
  have hbefore := h.before hapart hsplit hcycle
  have hnodup := h.nodup
  rw [hsplit, List.map_append, List.map_cons] at hnodup
  exact (List.nodup_append.1 hnodup).2.2 _ hbefore _ List.mem_cons_self rfl

end InOrder

end

/-! ### Loading -/

variable (tree : FileTree)

/-- What is loaded for some paths on top of what was loaded before, while some files are pending. -/
structure Extends (pending : List (List String)) (loaded : List LoadedFile) (paths : List String)
    (result : List LoadedFile) : Prop where
  order : InOrder tree result
  kept : loaded <+: result
  found : ∀ path ∈ paths, ∃ place ∈ result.map (·.place), placeAt? tree path = some place
  new : ∀ l ∈ result, l ∈ loaded ∨
    l.place ∉ pending ∧ ∃ path, Reachable tree paths path ∧ fileAt? tree path = some l

/-- How loading some paths ends. It fails for a reason that can be reached from them, if the pending
files all import the files at these paths. -/
def Ending (pending : List (List String)) (loaded : List LoadedFile) (paths : List String) :
    Except LoadError (List LoadedFile) → Prop
  | .ok result => Extends tree pending loaded paths result
  | .error _ =>
    (∀ place ∈ pending, ∀ path ∈ paths, ∀ goal, placeAt? tree path = some goal →
      TransGen (Imports tree) place goal) →
    ∃ path, Reachable tree paths path ∧ Faulty tree path

variable {tree}

theorem ending_loadAll {pending : List (List String)}
    (hload : ∀ loaded path, InOrder tree loaded →
      Ending tree pending loaded [path] (load tree pending loaded path))
    (paths : List String) {loaded : List LoadedFile} (h : InOrder tree loaded) :
    Ending tree pending loaded paths (loadAll tree pending loaded paths) := by
  induction paths generalizing loaded with
  | nil =>
    rw [loadAll]
    exact ⟨h, List.prefix_refl _, List.forall_mem_nil _, fun l hl => .inl hl⟩
  | cons path rest ih =>
    have hfirst {p : String} (hp : Reachable tree [path] p) : Reachable tree (path :: rest) p :=
      hp.trans fun q hq => .start (List.mem_singleton.1 hq ▸ List.mem_cons_self)
    have hrest {p : String} (hp : Reachable tree rest p) : Reachable tree (path :: rest) p :=
      hp.trans fun q hq => .start (List.mem_cons_of_mem _ hq)
    have hpath := hload loaded path h
    rw [loadAll]
    cases hok : load tree pending loaded path with
    | error e =>
      rw [hok] at hpath
      intro hpending
      obtain ⟨p, hp, hfaulty⟩ := hpath fun place hplace q hq =>
        hpending place hplace q (List.mem_singleton.1 hq ▸ List.mem_cons_self)
      exact ⟨p, hfirst hp, hfaulty⟩
    | ok middle =>
      rw [hok] at hpath
      have hothers := ih hpath.order
      dsimp only
      cases hall : loadAll tree pending middle rest with
      | error e =>
        rw [hall] at hothers
        intro hpending
        obtain ⟨p, hp, hfaulty⟩ := hothers fun place hplace q hq =>
          hpending place hplace q (List.mem_cons_of_mem _ hq)
        exact ⟨p, hrest hp, hfaulty⟩
      | ok result =>
        rw [hall] at hothers
        refine ⟨hothers.order, hpath.kept.trans hothers.kept, ?_, ?_⟩
        · intro p hp
          rcases List.mem_cons.1 hp with rfl | hp
          · obtain ⟨place, hplace, hsome⟩ := hpath.found p List.mem_cons_self
            exact ⟨place, (hothers.kept.map _).subset hplace, hsome⟩
          · exact hothers.found p hp
        · intro l hl
          rcases hothers.new l hl with hl | ⟨hnew, p, hp, hfile⟩
          · rcases hpath.new l hl with hl | ⟨hnew, p, hp, hfile⟩
            · exact .inl hl
            · exact .inr ⟨hnew, p, hfirst hp, hfile⟩
          · exact .inr ⟨hnew, p, hrest hp, hfile⟩

theorem load_eq {path : String} {l : LoadedFile} (hfile : fileAt? tree path = some l)
    (pending : List (List String)) (loaded : List LoadedFile) : load tree pending loaded path =
      if l.place ∈ loaded.map (·.place) then .ok loaded
      else if l.place ∈ pending then .error (.cycle l.place pending)
      else (loadAll tree (l.place :: pending) loaded l.file.importPaths).map (· ++ [l]) := by
  obtain ⟨hresolve, content, hfind, hread⟩ := fileAt?_eq_some_iff.1 hfile
  rw [load, hresolve]
  dsimp only
  split
  · rfl
  · split
    · rfl
    · split
      · next hnone =>
        rw [hfind] at hnone
        cases hnone
      · next hsome =>
        rw [hfind] at hsome
        cases hsome
        rw [hread]
        dsimp only
        cases loadAll tree (l.place :: pending) loaded l.file.importPaths <;> rfl

/-- Where none can be read loading fails; such a place has not been loaded before. -/
theorem exists_load_eq_error {path : String} (hnone : fileAt? tree path = none)
    {loaded : List LoadedFile} (h : InOrder tree loaded) (pending : List (List String)) :
    ∃ e, load tree pending loaded path = .error e := by
  unfold load
  split
  · exact ⟨_, rfl⟩
  · next place hresolve =>
    have hnew : place ∉ loaded.map (·.place) := by
      intro hmem
      obtain ⟨l, hl, rfl⟩ := List.mem_map.1 hmem
      obtain ⟨other, hother⟩ := h.exists_path hl
      have hsame := placeAt?_congr (hresolve.trans (fileAt?_eq_some_iff.1 hother).1.symm)
      rw [placeAt?, placeAt?, hnone, hother] at hsame
      cases hsame
    rw [if_neg hnew]
    split
    · exact ⟨_, rfl⟩
    · split
      · exact ⟨_, rfl⟩
      · next content hfind =>
        cases hread : Source.read? ⟨path, content⟩ with
        | none => exact ⟨_, rfl⟩
        | some file =>
          have hfile : fileAt? tree path = some ⟨place, file⟩ :=
            fileAt?_eq_some_iff.2 ⟨hresolve, content, hfind, hread⟩
          rw [hnone] at hfile
          cases hfile

/-- A file follows those that it imports. -/
theorem Extends.concat {pending : List (List String)} {loaded result : List LoadedFile} {path : String}
    {l : LoadedFile} (h : Extends tree (l.place :: pending) loaded l.file.importPaths result)
    (hfile : fileAt? tree path = some l) (hnotLoaded : l.place ∉ loaded.map (·.place))
    (hnotPending : l.place ∉ pending) : Extends tree pending loaded [path] (result ++ [l]) := by
  have hself : Reachable tree [path] path := .start List.mem_cons_self
  have hnew : l.place ∉ result.map (·.place) := by
    intro hmem
    obtain ⟨m, hm, hmplace⟩ := List.mem_map.1 hmem
    rcases h.new m hm with hm | ⟨hnotHere, -⟩
    · exact hnotLoaded (hmplace ▸ List.mem_map_of_mem hm)
    · exact hnotHere (hmplace ▸ List.mem_cons_self)
  refine ⟨.concat h.order hfile hnew h.found, h.kept.trans (List.prefix_append _ _), ?_, ?_⟩
  · intro p hp
    obtain rfl := List.mem_singleton.1 hp
    exact ⟨l.place, by simp, placeAt?_eq_some_iff.2 ⟨l, hfile, rfl⟩⟩
  · intro m hm
    rcases List.mem_append.1 hm with hm | hm
    · rcases h.new m hm with hm | ⟨hnotHere, p, hp, hpfile⟩
      · exact .inl hm
      · exact .inr ⟨fun hmem => hnotHere (List.mem_cons_of_mem _ hmem), p,
          hp.trans fun q hq => hself.next hfile hq, hpfile⟩
    · obtain rfl := List.mem_singleton.1 hm
      exact .inr ⟨hnotPending, path, hself, hfile⟩

theorem ending_load {pending : List (List String)}
    (hall : ∀ path l, fileAt? tree path = some l → l.place ∉ pending →
      ∀ paths loaded, InOrder tree loaded →
        Ending tree (l.place :: pending) loaded paths (loadAll tree (l.place :: pending) loaded paths))
    {loaded : List LoadedFile} (h : InOrder tree loaded) (path : String) :
    Ending tree pending loaded [path] (load tree pending loaded path) := by
  have hself : Reachable tree [path] path := .start List.mem_cons_self
  cases hfile : fileAt? tree path with
  | none =>
    obtain ⟨e, he⟩ := exists_load_eq_error hfile h pending
    rw [he]
    exact fun _ => ⟨path, hself, .inl hfile⟩
  | some l =>
    have hplace : placeAt? tree path = some l.place := placeAt?_eq_some_iff.2 ⟨l, hfile, rfl⟩
    rw [load_eq hfile]
    split
    · next hloaded =>
      refine ⟨h, List.prefix_refl _, ?_, fun l hl => .inl hl⟩
      intro p hp
      obtain rfl := List.mem_singleton.1 hp
      exact ⟨l.place, hloaded, hplace⟩
    · next hnotLoaded =>
      split
      · next hpending =>
        exact fun himports => ⟨path, hself, .inr ⟨l.place, hplace,
          himports l.place hpending path List.mem_cons_self l.place hplace⟩⟩
      · next hnotPending =>
        have himports := hall path l hfile hnotPending l.file.importPaths loaded h
        cases hok : loadAll tree (l.place :: pending) loaded l.file.importPaths with
        | error e =>
          rw [hok] at himports
          intro hpending
          have hedges : ∀ place ∈ l.place :: pending, ∀ next ∈ l.file.importPaths, ∀ goal,
              placeAt? tree next = some goal → TransGen (Imports tree) place goal := by
            intro place hmem next hnext goal hgoal
            have hedge := Imports.of_mem hfile hnext hgoal
            rcases List.mem_cons.1 hmem with rfl | hmem
            · exact .single hedge
            · exact (hpending place hmem path List.mem_cons_self l.place hplace).tail hedge
          obtain ⟨p, hp, hfaulty⟩ := himports hedges
          exact ⟨p, hp.trans fun q hq => hself.next hfile hq, hfaulty⟩
        | ok result =>
          rw [hok] at himports
          exact himports.concat hfile hnotLoaded hnotPending

theorem unread_lt_of_fileAt? {path : String} {l : LoadedFile} (hfile : fileAt? tree path = some l)
    {pending : List (List String)} (hnew : l.place ∉ pending) :
    unread tree (l.place :: pending) < unread tree pending := by
  obtain ⟨-, content, hfind, -⟩ := fileAt?_eq_some_iff.1 hfile
  exact unread_lt hnew hfind

theorem ending {pending : List (List String)} (paths : List String) {loaded : List LoadedFile}
    (h : InOrder tree loaded) : Ending tree pending loaded paths (loadAll tree pending loaded paths) := by
  induction hsize : unread tree pending using Nat.strongRecOn generalizing pending paths loaded with
  | _ size ih =>
    refine ending_loadAll (fun loaded path h => ending_load ?_ h path) paths h
    intro path l hfile hnew paths loaded h
    exact ih _ (hsize ▸ unread_lt_of_fileAt? hfile hnew) paths h rfl

/-! ### Files and all that they import -/

variable (tree)

/-- Loading one path in turn loads those that the file there imports. -/
inductive Nested : List (List String) × String → List (List String) × String → Prop
  | import {pending : List (List String)} {path next : String} {l : LoadedFile}
    (file : fileAt? tree path = some l) (new : l.place ∉ pending) (imported : next ∈ l.file.importPaths) :
    Nested (l.place :: pending, next) (pending, path)

/-- Files that are loaded for some paths: all that are met from there on, each once, and after those that
it imports. -/
structure Complete (paths : List String) (loaded : List LoadedFile) : Prop where
  once : (loaded.map (·.place)).Nodup
  met : ∀ place, place ∈ loaded.map (·.place) ↔
    ∃ path, Reachable tree paths path ∧ placeAt? tree path = some place
  file : ∀ l ∈ loaded, ∃ path, Reachable tree paths path ∧ fileAt? tree path = some l
  after : ∀ before l later, loaded = before ++ l :: later →
    ∀ place, TransGen (Imports tree) l.place place → place ∈ before.map (·.place)

variable {tree}

theorem wellFounded_nested : WellFounded (Nested tree) := by
  refine Subrelation.wf ?_ (measure fun call : List (List String) × String => unread tree call.1).wf
  rintro _ _ ⟨file, new, -⟩
  exact unread_lt_of_fileAt? file new

theorem Extends.placeAt?_of_reachable (hapart : tree.Apart) {paths : List String}
    {result : List LoadedFile} (h : Extends tree [] [] paths result) {path : String}
    (hpath : Reachable tree paths path) :
    ∃ place ∈ result.map (·.place), placeAt? tree path = some place := by
  induction hpath with
  | start first => exact h.found _ first
  | next _ file imported ih =>
    obtain ⟨place, hmem, hplace⟩ := ih
    obtain ⟨l', hl', rfl⟩ := List.mem_map.1 hmem
    obtain ⟨l, hl, hsame⟩ := placeAt?_eq_some_iff.1 hplace
    rw [file] at hl
    cases hl
    obtain ⟨before, after, hsplit⟩ := List.append_of_mem hl'
    obtain ⟨goal, hgoal, hsome⟩ := h.order.closed hapart hsplit file hsame imported
    refine ⟨goal, ?_, hsome⟩
    rw [hsplit, List.map_append]
    exact List.mem_append_left _ hgoal

theorem Extends.complete (hapart : tree.Apart) {paths : List String} {result : List LoadedFile}
    (h : Extends tree [] [] paths result) : Complete tree paths result := by
  have hfile : ∀ l ∈ result, ∃ path, Reachable tree paths path ∧ fileAt? tree path = some l := by
    intro l hl
    rcases h.new l hl with hnil | ⟨-, hpath⟩
    · cases hnil
    · exact hpath
  refine ⟨h.order.nodup, fun place => ⟨?_, ?_⟩, hfile, ?_⟩
  · intro hmem
    obtain ⟨l, hl, rfl⟩ := List.mem_map.1 hmem
    obtain ⟨path, hpath, hsome⟩ := hfile l hl
    exact ⟨path, hpath, placeAt?_eq_some_iff.2 ⟨l, hsome, rfl⟩⟩
  · rintro ⟨path, hpath, hplace⟩
    obtain ⟨goal, hgoal, hsome⟩ := h.placeAt?_of_reachable hapart hpath
    rw [hplace] at hsome
    cases hsome
    exact hgoal
  · exact fun before l later hsplit place himports => h.order.before hapart hsplit himports

theorem distinct_of_loadFiles {paths : List String} {files : List ConfigFile}
    (h : loadFiles tree paths = .ok files) : ∀ file ∈ files, file.sections.Distinct := by
  have hending : Ending tree [] [] paths (loadAll tree [] [] paths) := ending paths .nil
  unfold loadFiles at h
  cases hall : loadAll tree [] [] paths with
  | error e =>
    rw [hall] at h
    cases h
  | ok loaded =>
    rw [hall] at h hending
    cases h
    intro file hfile
    obtain ⟨l, hl, rfl⟩ := List.mem_map.1 hfile
    rcases hending.new l hl with hnil | ⟨-, path, -, hpath⟩
    · cases hnil
    · obtain ⟨-, content, -, hread⟩ := fileAt?_eq_some_iff.1 hpath
      exact Source.distinct_of_read? hread

/-- Loading ends, since each file that is entered is pending inside; it succeeds just if at every path
that is met a file can be read, and no such file is among its own imports; and then it gives every file
once, and after all that it imports. -/
theorem loadFiles_complete (tree : FileTree) (h : tree.Apart) (paths : List String) :
    WellFounded (Nested tree) ∧
    ((∃ files, loadFiles tree paths = .ok files) ↔
      (∀ path, Reachable tree paths path → (fileAt? tree path).isSome) ∧
      ∀ path place, Reachable tree paths path → placeAt? tree path = some place →
        ¬ TransGen (Imports tree) place place) ∧
    ∀ files, loadFiles tree paths = .ok files →
      ∃ loaded, files = loaded.map (·.file) ∧ Complete tree paths loaded := by
  have hending : Ending tree [] [] paths (loadAll tree [] [] paths) := ending paths .nil
  unfold loadFiles
  refine ⟨wellFounded_nested, ?_, ?_⟩
  · cases hall : loadAll tree [] [] paths with
    | error e =>
      rw [hall] at hending
      obtain ⟨path, hpath, hfaulty⟩ := hending nofun
      refine iff_of_false (by simp [Except.map]) ?_
      rintro ⟨hread, hacyclic⟩
      obtain ⟨l, hl⟩ := Option.isSome_iff_exists.1 (hread path hpath)
      have hplace : placeAt? tree path = some l.place := placeAt?_eq_some_iff.2 ⟨l, hl, rfl⟩
      exact hacyclic path l.place hpath hplace (hfaulty.transGen hplace)
    | ok loaded =>
      rw [hall] at hending
      refine iff_of_true ⟨_, rfl⟩ ⟨fun path hpath => ?_, fun path place hpath hplace => ?_⟩
      · obtain ⟨place, -, hsome⟩ := hending.placeAt?_of_reachable h hpath
        obtain ⟨l, hl, -⟩ := placeAt?_eq_some_iff.1 hsome
        exact Option.isSome_iff_exists.2 ⟨l, hl⟩
      · obtain ⟨goal, hgoal, hsome⟩ := hending.placeAt?_of_reachable h hpath
        rw [hplace] at hsome
        cases hsome
        exact hending.order.acyclic h hgoal
  · intro files hok
    cases hall : loadAll tree [] [] paths with
    | error e =>
      rw [hall] at hok
      cases hok
    | ok loaded =>
      rw [hall] at hok hending
      cases hok
      exact ⟨loaded, rfl, hending.complete h⟩

/-- A file that two others import, one of which imports the other. -/
def shared : FileTree where
  files := [(["base.toml"], ""), (["left.toml"], "imports = [\"base.toml\"]"),
    (["main.toml"], "imports = [\"./base.toml\", \"left.toml\", \"base.toml\"]")]

theorem loadFiles_complete_shared : shared.Apart ∧
    ∃ base left main, loadFiles shared ["/main.toml"] = .ok [base, left, main] ∧
      ∃ loaded, [base, left, main] = loaded.map (·.file) ∧ Complete shared ["/main.toml"] loaded := by
  have hapart : shared.Apart := by
    unfold FileTree.Apart
    decide
  have hfile (path : String) (place : List String) (importPaths : List String)
      (h : (fileAt? shared path).map (fun l => (l.place, l.file.importPaths)) = some (place, importPaths)) :
      ∃ l, fileAt? shared path = some l ∧ l.place = place ∧ l.file.importPaths = importPaths := by
    obtain ⟨l, hl, heq⟩ := Option.map_eq_some_iff.1 h
    exact ⟨l, hl, congrArg Prod.fst heq, congrArg Prod.snd heq⟩
  obtain ⟨main, hmain, hmainPlace, hmainImports⟩ := hfile "/main.toml" ["main.toml"]
    ["/./base.toml", "/left.toml", "/base.toml"] (by decide +kernel)
  obtain ⟨left, hleft, hleftPlace, hleftImports⟩ := hfile "/left.toml" ["left.toml"] ["/base.toml"]
    (by decide +kernel)
  obtain ⟨base, hbase, hbasePlace, hbaseImports⟩ := hfile "/./base.toml" ["base.toml"] []
    (by decide +kernel)
  obtain ⟨again, hagain, hagainPlace, -⟩ := hfile "/base.toml" ["base.toml"] [] (by decide +kernel)
  have hok : loadFiles shared ["/main.toml"] = .ok [base.file, left.file, main.file] := by
    simp [loadFiles, loadAll, load_eq hmain, load_eq hleft, load_eq hbase, load_eq hagain, hmainPlace,
      hleftPlace, hbasePlace, hagainPlace, hmainImports, hleftImports, hbaseImports, Except.map]
  exact ⟨hapart, _, _, _, hok, (loadFiles_complete shared hapart ["/main.toml"]).2.2 _ hok⟩

end DriverHub.Config
