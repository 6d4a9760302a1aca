import DriverHub.FileTree
import DriverHub.Proofs.Text.Split
import Mathlib.Data.List.Basic
import Mathlib.Tactic.Common

/-! Paths by their names: which names a path made of two has, and where following them leads. -/

namespace DriverHub

namespace FileTree

/-! ### Names -/

theorem names_ne_nil (path : String) : names path ≠ [] := by
  simpa [names] using Text.split_ne_nil _

theorem names_append (a b : String) : names (a ++ "/" ++ b) = names a ++ names b := by
  have hlist : (a ++ "/" ++ b).toList = a.toList ++ '/' :: b.toList := by simp
  rw [names, hlist, Text.split_append, List.map_append, names, names]

theorem not_mem_of_mem_names {name path : String} (h : name ∈ names path) : '/' ∉ name.toList := by
  obtain ⟨part, hpart, rfl⟩ := List.mem_map.1 h
  rw [String.toList_ofList]
  exact Text.not_mem_of_mem_split hpart

theorem names_intercalate {parts : List String} (hparts : parts ≠ [])
    (h : ∀ part ∈ parts, '/' ∉ part.toList) : names (String.intercalate "/" parts) = parts := by
  induction parts with
  | nil => exact absurd rfl hparts
  | cons part rest ih =>
    have hpart : names part = [part] := by
      rw [names, Text.split_of_not_mem (h part List.mem_cons_self), List.map_singleton,
        String.ofList_toList]
    cases rest with
    | nil => rw [String.intercalate_singleton, hpart]
    | cons next rest =>
      have hrest := ih (by simp) fun p hp => h p (List.mem_cons_of_mem _ hp)
      rw [String.intercalate_cons_cons, names_append, hpart, hrest, List.singleton_append]

/-- A path is absolute if it has an empty name in front. -/
theorem isAbsolute_iff {path name : String} {rest : List String} (h : names path = name :: rest) :
    isAbsolute path = true ↔ name = "" ∧ rest ≠ [] := by
  unfold isAbsolute names at *
  cases hchars : path.toList with
  | nil =>
    rw [hchars] at h
    obtain ⟨-, rfl⟩ := List.cons.inj h
    simp
  | cons c cs =>
    rw [hchars, Text.split] at h
    split at h
    · next hc =>
      obtain ⟨rfl, rfl⟩ := List.cons.inj h
      have hne : Text.split '/' cs ≠ [] := Text.split_ne_nil cs
      simp [hc, hne]
    · next hc =>
      refine iff_of_false (by simpa using hc) ?_
      rintro ⟨rfl, -⟩
      split at h
      · exact absurd (List.cons.inj h).1 (by simp)
      · exact absurd (List.cons.inj h).1 (by simp)

/-! ### Walking -/

variable (tree : FileTree)

theorem walk_append (place : List String) (a b : List String) :
    tree.walk place (a ++ b) = (tree.walk place a).bind (tree.walk · b) := by
  induction a generalizing place with
  | nil => rfl
  | cons name rest ih =>
    rw [List.cons_append, walk, walk]
    split
    · rfl
    · split
      · exact ih _
      · split
        · exact ih _
        · split
          · exact ih _
          · rfl

theorem walk_eq_of_still {place goal names : List String} (h : ∀ name ∈ names, name = "" ∨ name = ".")
    (hwalk : tree.walk place names = .ok goal) : goal = place := by
  induction names generalizing place with
  | nil => exact (Except.ok.inj hwalk).symm
  | cons name rest ih =>
    rw [walk] at hwalk
    split at hwalk
    · cases hwalk
    · rw [if_pos (h name List.mem_cons_self)] at hwalk
      exact ih (fun n hn => h n (List.mem_cons_of_mem _ hn)) hwalk

theorem walk_still {place : List String} (hdirectory : tree.isDirectory place = true) {name : String}
    (h : name = "" ∨ name = ".") (rest : List String) : tree.walk place (name :: rest) = tree.walk place rest := by
  rw [walk, hdirectory, if_neg (by simp), if_pos h]

theorem isDirectory_dropLast {place : List String} (h : tree.isDirectory place = true) :
    tree.isDirectory place.dropLast = true := by
  have hupto (l : List String) (hl : place.isPrefixOf l = true) : place.dropLast.isPrefixOf l = true :=
    List.isPrefixOf_iff_prefix.2 ((List.dropLast_prefix place).trans (List.isPrefixOf_iff_prefix.1 hl))
  simp only [isDirectory, Bool.or_eq_true, List.any_eq_true, Bool.and_eq_true, decide_eq_true_eq]
    at h ⊢
  rcases h with (h | ⟨d, hd, h⟩) | ⟨f, hf, hne, h⟩
  · exact .inl (.inl (hupto _ h))
  · exact .inl (.inr ⟨d, hd, hupto _ h⟩)
  · refine .inr ⟨f, hf, ?_, hupto _ h⟩
    intro heq
    -- only the top is as long as what it lies in
    have hlength := (List.isPrefixOf_iff_prefix.1 h).length_le
    rw [← heq, List.length_dropLast] at hlength
    have hnil : place = [] := List.length_eq_zero_iff.1 (by omega)
    rw [hnil] at heq hne
    exact hne heq

/-- No file is a directory. -/
def Apart : Prop := ∀ f ∈ tree.files, tree.isDirectory f.1 = false

variable {tree}

/-- The last name on the way to a file is its own; the names before it lead to its directory. -/
theorem Apart.walk_concat (h : tree.Apart) {place goal : List String} {parts : List String}
    {last content : String} (hwalk : tree.walk place (parts ++ [last]) = .ok goal)
    (hfile : Dict.find? goal tree.files = some content) :
    tree.walk place parts = .ok goal.dropLast ∧ tree.isDirectory goal.dropLast = true := by
  have hgoal : tree.isDirectory goal = false := h _ (Dict.mem_of_find? hfile)
  rw [walk_append] at hwalk
  cases hparts : tree.walk place parts with
  | error fault =>
    rw [hparts] at hwalk
    cases hwalk
  | ok middle =>
    rw [hparts] at hwalk
    change tree.walk middle [last] = .ok goal at hwalk
    rw [walk] at hwalk
    split at hwalk
    · cases hwalk
    · next hdirectory =>
      rw [Bool.not_eq_true, Bool.not_eq_false'] at hdirectory
      split at hwalk
      · cases hwalk
        rw [hdirectory] at hgoal
        cases hgoal
      · split at hwalk
        · cases hwalk
          rw [isDirectory_dropLast tree hdirectory] at hgoal
          cases hgoal
        · split at hwalk
          · cases hwalk
            rw [List.dropLast_concat]
            exact ⟨rfl, hdirectory⟩
          · cases hwalk

end FileTree

end DriverHub
