import DriverHub.Proofs.Dict
import DriverHub.Proofs.FileTree
import DriverHub.Proofs.Text.Split
import DriverHub.Records.Store

/-! A document that was persisted is what its file holds. The name under which it is first written lies
in the same directory as the file, so moving it away takes no directory away that the path passes. -/

namespace DriverHub

namespace FileTree

variable {tree other : FileTree}

theorem isDirectory_iff (place : List String) : tree.isDirectory place = true ↔
    place <+: tree.home ∨ (∃ d ∈ tree.directories, place <+: d) ∨
      ∃ file content, Dict.find? file tree.files = some content ∧ place ≠ file ∧ place <+: file := by
  have hfiles : (∃ f ∈ tree.files, place ≠ f.1 ∧ place <+: f.1) ↔
      ∃ file content, Dict.find? file tree.files = some content ∧ place ≠ file ∧ place <+: file := by
    constructor
    · rintro ⟨⟨file, content⟩, hmem, hne, hlies⟩
      obtain ⟨found, hfound⟩ := Dict.exists_find? hmem
      exact ⟨file, found, hfound, hne, hlies⟩
    · rintro ⟨file, content, hfind, hne, hlies⟩
      exact ⟨(file, content), Dict.mem_of_find? hfind, hne, hlies⟩
  rw [← hfiles]
  simp [isDirectory, or_assoc]

/-- Following names leads to the same directory where no directory is missing. -/
theorem walk_mono (h : ∀ place, tree.isDirectory place = true → other.isDirectory place = true)
    {place goal : List String} {names : List String} (hwalk : tree.walk place names = .ok goal)
    (hgoal : tree.isDirectory goal = true) : other.walk place names = .ok goal := by
  induction names generalizing place with
  | nil => exact hwalk
  | cons name rest ih =>
    rw [walk] at hwalk ⊢
    split at hwalk
    · cases hwalk
    · next hplace =>
      have hdirectory : other.isDirectory place = true := h place (by simpa using hplace)
      rw [if_neg (by simp [hdirectory])]
      split at hwalk
      · next hstill =>
        rw [if_pos hstill]
        exact ih hwalk
      · next hmoves =>
        rw [if_neg hmoves]
        split at hwalk
        · next hup =>
          rw [if_pos hup]
          exact ih hwalk
        · next hdown =>
          rw [if_neg hdown]
          split at hwalk
          · have hnext : tree.isDirectory (place ++ [name]) = true := by
              cases rest with
              | nil =>
                cases hwalk
                exact hgoal
              | cons next rest =>
                rw [walk] at hwalk
                split at hwalk
                · cases hwalk
                · next hd => simpa using hd
            rw [if_pos (by simp [exists?, h _ hnext])]
            exact ih hwalk
          · cases hwalk

/-- The last name of a path stands for a file in a directory. -/
def Leads (tree : FileTree) (path : String) (directory : List String) (name : String) : Prop :=
  path.isEmpty = false ∧ (names path).getLast? = some name ∧ ¬(name = "" ∨ name = "." ∨ name = "..") ∧
    tree.walk (tree.start path) (names path).dropLast = .ok directory ∧ tree.isDirectory directory = true

theorem leads_of_target {path : String} {place : List String} (h : tree.target path = .ok place) :
    ∃ directory name, tree.Leads path directory name ∧ place = directory ++ [name] := by
  obtain ⟨name, hname⟩ : ∃ name, (names path).getLast? = some name :=
    ⟨_, List.getLast?_eq_some_getLast (names_ne_nil path)⟩
  unfold target at h
  simp only [hname, Option.getD_some] at h
  split at h
  · cases h
  · next hempty =>
    cases hwalk : tree.walk (tree.start path) (names path).dropLast with
    | error fault =>
      rw [hwalk] at h
      cases h
    | ok directory =>
      simp only [hwalk] at h
      split at h
      · cases h
      · next hdirectory =>
        split at h
        · cases h
        · next hspecial =>
          split at h
          · cases h
          · cases h
            refine ⟨directory, name, ⟨by simpa using hempty, hname, hspecial, hwalk, ?_⟩, rfl⟩
            simpa using hdirectory

theorem Leads.read {path content name : String} {directory : List String}
    (h : tree.Leads path directory name)
    (hfile : Dict.find? (directory ++ [name]) tree.files = some content) : tree.read path = .ok content := by
  obtain ⟨hempty, hname, hspecial, hwalk, hdirectory⟩ := h
  have hnames : names path = (names path).dropLast ++ [name] :=
    (List.dropLast_append_getLast? name hname).symm
  have hplace : tree.resolve path = .ok (directory ++ [name]) := by
    unfold resolve
    rw [if_neg (by simp [hempty]), hnames, walk_append, hwalk]
    change tree.walk directory [name] = .ok (directory ++ [name])
    have hexists : tree.exists? (directory ++ [name]) = true := by
      simp [exists?, Dict.contains, hfile]
    rw [walk, if_neg (by simp [hdirectory]), if_neg (fun h => hspecial (h.imp_right .inl)),
      if_neg (fun h => hspecial (.inr (.inr h))), if_pos hexists]
    rfl
  unfold FileTree.read
  rw [hplace]
  simp only [contentAt, hfile]

theorem Leads.mono (h : ∀ place, tree.isDirectory place = true → other.isDirectory place = true)
    (hhome : other.home = tree.home) {path name : String} {directory : List String}
    (hleads : tree.Leads path directory name) : other.Leads path directory name := by
  obtain ⟨hempty, hname, hspecial, hwalk, hdirectory⟩ := hleads
  refine ⟨hempty, hname, hspecial, ?_, h _ hdirectory⟩
  have hstart : other.start path = tree.start path := by
    unfold start
    rw [hhome]
  rw [hstart]
  exact walk_mono h hwalk hdirectory

theorem Leads.unique {path name name' : String} {directory directory' : List String}
    (h : tree.Leads path directory name) (h' : tree.Leads path directory' name') :
    directory = directory' ∧ name = name' := by
  obtain ⟨-, hname, -, hwalk, -⟩ := h
  obtain ⟨-, hname', -, hwalk', -⟩ := h'
  rw [hname] at hname'
  rw [hwalk] at hwalk'
  exact ⟨Except.ok.inj hwalk', Option.some.inj hname'⟩

theorem write_eq_ok {path content : String} (h : tree.write path content = .ok other) :
    ∃ directory name, tree.Leads path directory name ∧
      other = { tree with files := Dict.insert (directory ++ [name]) content tree.files } := by
  unfold write at h
  cases htarget : tree.target path with
  | error fault =>
    rw [htarget] at h
    cases h
  | ok place =>
    rw [htarget] at h
    cases h
    obtain ⟨directory, name, hleads, rfl⟩ := leads_of_target htarget
    exact ⟨directory, name, hleads, rfl⟩

theorem rename_eq_ok {source path : String} (h : tree.rename source path = .ok other) :
    ∃ directory name directory' name' content, tree.Leads source directory name ∧
      tree.Leads path directory' name' ∧
      Dict.find? (directory ++ [name]) tree.files = some content ∧
      other = { tree with
        files := Dict.insert (directory' ++ [name']) content
          (Dict.erase (directory ++ [name]) tree.files) } := by
  unfold rename at h
  cases hsource : tree.target source with
  | error fault =>
    rw [hsource] at h
    cases h
  | ok old =>
    cases hpath : tree.target path with
    | error fault =>
      rw [hsource, hpath] at h
      cases h
    | ok new =>
      rw [hsource, hpath] at h
      obtain ⟨directory, name, hleads, rfl⟩ := leads_of_target hsource
      obtain ⟨directory', name', hleads', rfl⟩ := leads_of_target hpath
      cases hfind : Dict.find? (directory ++ [name]) tree.files with
      | none =>
        simp only [hfind] at h
        cases h
      | some content =>
        simp only [hfind] at h
        cases h
        exact ⟨directory, name, directory', name', content, hleads, hleads', hfind, rfl⟩

theorem isDirectory_insert (file : List String) (content : String) {place : List String}
    (h : tree.isDirectory place = true) :
    ({ tree with files := Dict.insert file content tree.files } : FileTree).isDirectory place = true := by
  rw [isDirectory_iff] at h ⊢
  rcases h with h | h | ⟨lying, found, hfind, hne, hlies⟩
  · exact .inl h
  · exact .inr (.inl h)
  · refine .inr (.inr ?_)
    by_cases heq : file = lying
    · refine ⟨lying, content, ?_, hne, hlies⟩
      rw [Dict.find?_insert, if_pos heq]
    · refine ⟨lying, found, ?_, hne, hlies⟩
      rw [Dict.find?_insert, if_neg heq, hfind]

/-- Moving a file within its directory takes no directory away. -/
theorem isDirectory_move (directory : List String) (old new content : String) {place : List String}
    (h : tree.isDirectory place = true) :
    ({ tree with
      files := Dict.insert (directory ++ [new]) content
        (Dict.erase (directory ++ [old]) tree.files) } : FileTree).isDirectory place = true := by
  rw [isDirectory_iff] at h ⊢
  rcases h with h | h | ⟨lying, found, hfind, hne, hlies⟩
  · exact .inl h
  · exact .inr (.inl h)
  · refine .inr (.inr ?_)
    by_cases hold : directory ++ [old] = lying
    · subst hold
      have hup : place <+: directory := (List.prefix_concat_iff.1 hlies).resolve_left hne
      refine ⟨directory ++ [new], content, ?_, ?_, hup.trans (List.prefix_append _ _)⟩
      · rw [Dict.find?_insert, if_pos rfl]
      · rintro rfl
        have hlength := hup.length_le
        rw [List.length_append, List.length_singleton] at hlength
        omega
    · by_cases hnew : directory ++ [new] = lying
      · refine ⟨lying, content, ?_, hne, hlies⟩
        rw [Dict.find?_insert, if_pos hnew]
      · refine ⟨lying, found, ?_, hne, hlies⟩
        rw [Dict.find?_insert, if_neg hnew, Dict.find?_erase, if_neg hold, hfind]

theorem isAbsolute_eq_of_names {path beside : String} {parts : List String} {name name' : String}
    (h : names path = parts ++ [name]) (h' : names beside = parts ++ [name']) :
    isAbsolute beside = isAbsolute path := by
  rw [Bool.eq_iff_iff]
  cases parts with
  | nil => simp [isAbsolute_iff h, isAbsolute_iff h']
  | cons first rest => simp [isAbsolute_iff h, isAbsolute_iff h']

end FileTree

namespace RecordStore

open FileTree

theorem names_temporary {path name : String} (hname : (names path).getLast? = some name)
    (hspecial : ¬(name = "" ∨ name = "." ∨ name = "..")) :
    ∃ beside, names (temporary path) = (names path).dropLast ++ [beside] := by
  have hclean : '/' ∉ name.toList := not_mem_of_mem_names (List.mem_of_getLast? hname)
  have hbeside : ∀ stem : String, '/' ∉ stem.toList →
      names (String.intercalate "/" ((names path).dropLast ++ [stem ++ ".json.tmp"])) =
        (names path).dropLast ++ [stem ++ ".json.tmp"] := by
    intro stem hstem
    refine names_intercalate (by simp) fun part hpart => ?_
    rcases List.mem_append.1 hpart with hpart | hpart
    · exact not_mem_of_mem_names (List.dropLast_subset _ hpart)
    · obtain rfl := List.mem_singleton.1 hpart
      simp [hstem]
  unfold temporary
  simp only [hname, Option.getD_some, if_neg hspecial]
  split
  · exact ⟨_, hbeside _ hclean⟩
  · refine ⟨_, hbeside _ fun hmem => ?_⟩
    rcases Text.mem_intercalate hmem with hsep | ⟨part, hpart, hmem⟩
    · simp at hsep
    · obtain ⟨piece, hpiece, rfl⟩ := List.mem_map.1 hpart
      rw [String.toList_ofList] at hmem
      exact hclean (Text.mem_of_mem_split (List.dropLast_subset _ hpiece) hmem)

theorem directory_temporary {tree : FileTree} {path name beside : String}
    {directory directory' : List String} (h : tree.Leads path directory name)
    (h' : tree.Leads (temporary path) directory' beside) : directory' = directory := by
  obtain ⟨-, hname, hspecial, hwalk, -⟩ := h
  obtain ⟨-, -, -, hwalk', -⟩ := h'
  obtain ⟨other, hnames⟩ := names_temporary hname hspecial
  have hpath : names path = (names path).dropLast ++ [name] :=
    (List.dropLast_append_getLast? name hname).symm
  have hstart : tree.start (temporary path) = tree.start path := by
    unfold start
    rw [isAbsolute_eq_of_names hpath hnames]
  rw [hstart, hnames, List.dropLast_concat, hwalk] at hwalk'
  exact (Except.ok.inj hwalk').symm

/-- What was persisted is read. -/
theorem read_of_persist {files left : FileTree} {path document : String}
    (h : persist files path document = (.ok (), left)) : left.read path = .ok document := by
  unfold persist at h
  cases hwrite : files.write (temporary path) document with
  | error fault =>
    rw [hwrite] at h
    cases h
  | ok written =>
    simp only [hwrite] at h
    cases hrename : written.rename (temporary path) path with
    | error fault =>
      rw [hrename] at h
      cases h
    | ok moved =>
      rw [hrename] at h
      cases h
      obtain ⟨directory, beside, hwritten, rfl⟩ := write_eq_ok hwrite
      have hkept := hwritten.mono (fun place hplace =>
        isDirectory_insert (directory ++ [beside]) document hplace) rfl
      obtain ⟨directory₁, beside₁, directory₂, name, content, hsource, hpath, hfind, rfl⟩ :=
        rename_eq_ok hrename
      obtain ⟨rfl, rfl⟩ := hkept.unique hsource
      obtain rfl := directory_temporary hpath hsource
      have hcontent : content = document := by
        rw [Dict.find?_insert, if_pos rfl] at hfind
        exact (Option.some.inj hfind).symm
      rw [hcontent] at *
      refine (hpath.mono (fun place hplace => isDirectory_move directory beside name document hplace)
        rfl).read ?_
      rw [Dict.find?_insert, if_pos rfl]

end RecordStore

end DriverHub
