import DriverHub.Text.Split
import Mathlib.Data.List.Basic
import Mathlib.Tactic.Common

/-! Cutting a text at a separator. The parts are just those lists of texts without the separator that give
the text when the separator is put between them. -/

namespace DriverHub.Text

variable {sep : Char}

theorem split_ne_nil (cs : List Char) : split sep cs ≠ [] := by
  cases cs with
  | nil => simp [split]
  | cons c rest =>
    rw [split]
    split
    · simp
    · split <;> simp

theorem split_append (a b : List Char) :
    split sep (a ++ sep :: b) = split sep a ++ split sep b := by
  induction a with
  | nil => simp [split]
  | cons c rest ih =>
    rw [List.cons_append, split, split, ih]
    split
    · rfl
    · cases h : split sep rest with
      | nil => exact absurd h (split_ne_nil rest)
      | cons part parts => rfl

theorem split_of_not_mem {cs : List Char} (h : sep ∉ cs) : split sep cs = [cs] := by
  induction cs with
  | nil => rfl
  | cons c rest ih =>
    obtain ⟨hc, hrest⟩ := not_or.1 (List.mem_cons.not.1 h)
    rw [split, if_neg (Ne.symm hc), ih hrest]

theorem not_mem_of_mem_split {part cs : List Char} (h : part ∈ split sep cs) : sep ∉ part := by
  induction cs generalizing part with
  | nil =>
    obtain rfl := List.mem_singleton.1 h
    exact List.not_mem_nil
  | cons c rest ih =>
    rw [split] at h
    split at h
    · rcases List.mem_cons.1 h with rfl | h
      · exact List.not_mem_nil
      · exact ih h
    · next hc =>
      cases hrest : split sep rest with
      | nil => exact absurd hrest (split_ne_nil rest)
      | cons first parts =>
        rw [hrest] at h ih
        rcases List.mem_cons.1 h with rfl | h
        · rw [List.mem_cons, not_or]
          exact ⟨Ne.symm hc, ih List.mem_cons_self⟩
        · exact ih (List.mem_cons_of_mem _ h)

theorem mem_of_mem_split {c : Char} {part cs : List Char} (hpart : part ∈ split sep cs)
    (hc : c ∈ part) : c ∈ cs := by
  induction cs generalizing part with
  | nil =>
    obtain rfl := List.mem_singleton.1 hpart
    exact hc
  | cons first rest ih =>
    rw [split] at hpart
    split at hpart
    · rcases List.mem_cons.1 hpart with rfl | hpart
      · cases hc
      · exact List.mem_cons_of_mem _ (ih hpart hc)
    · cases hrest : split sep rest with
      | nil => exact absurd hrest (split_ne_nil rest)
      | cons other others =>
        rw [hrest] at hpart ih
        rcases List.mem_cons.1 hpart with rfl | hpart
        · rcases List.mem_cons.1 hc with rfl | hc
          · exact List.mem_cons_self
          · exact List.mem_cons_of_mem _ (ih List.mem_cons_self hc)
        · exact List.mem_cons_of_mem _ (ih (List.mem_cons_of_mem _ hpart) hc)

theorem split_eq_splitOn (cs : List Char) : split sep cs = cs.splitOn sep := by
  induction cs with
  | nil => rfl
  | cons c rest ih =>
    rw [split, ih, List.splitOn, List.splitOn, List.splitOnP_cons_eq_if_modifyHead]
    simp only [beq_iff_eq]
    split
    · rfl
    · cases h : List.splitOnP (· == sep) rest with
      | nil => exact absurd h (List.splitOnP_ne_nil _ _)
      | cons part parts => rfl

/-- Cutting undoes joining, and gives no other parts. -/
theorem split_eq_iff {cs : List Char} {parts : List (List Char)} :
    split sep cs = parts ↔ parts ≠ [] ∧ (∀ part ∈ parts, sep ∉ part) ∧ [sep].intercalate parts = cs := by
  constructor
  · rintro rfl
    refine ⟨split_ne_nil cs, fun part hpart => not_mem_of_mem_split hpart, ?_⟩
    rw [split_eq_splitOn, List.intercalate_splitOn]
  · rintro ⟨hne, hfree, rfl⟩
    rw [split_eq_splitOn, List.splitOn_intercalate sep hfree hne]

theorem split_eq_singleton_iff {cs part : List Char} : split sep cs = [part] ↔ cs = part ∧ sep ∉ part := by
  rw [split_eq_iff, List.intercalate_singleton]
  constructor
  · rintro ⟨-, hfree, rfl⟩
    exact ⟨rfl, hfree _ List.mem_cons_self⟩
  · rintro ⟨rfl, hfree⟩
    exact ⟨List.cons_ne_nil _ _, List.forall_mem_singleton.2 hfree, rfl⟩

/-- Two texts that have two parts together have one part each. -/
theorem eq_of_split_append_split {a b first second : List Char}
    (h : split sep a ++ split sep b = [first, second]) : a = first ∧ b = second := by
  rcases List.append_eq_cons_iff.1 h with ⟨hnil, -⟩ | ⟨others, ha, hrest⟩
  · exact absurd hnil (split_ne_nil a)
  · rcases List.singleton_eq_append_iff.1 hrest with ⟨rfl, hb⟩ | ⟨-, hnil⟩
    · exact ⟨(split_eq_singleton_iff.1 ha).1, (split_eq_singleton_iff.1 hb).1⟩
    · exact absurd hnil (split_ne_nil b)

/-- A text in three parts. -/
theorem split_eq_three_iff {cs a b c : List Char} : split sep cs = [a, b, c] ↔
    cs = a ++ sep :: (b ++ sep :: c) ∧ sep ∉ a ∧ sep ∉ b ∧ sep ∉ c := by
  have hjoined : [sep].intercalate [a, b, c] = a ++ sep :: (b ++ sep :: c) := by
    simp [List.intercalate_cons_cons]
  have hfree : (∀ part ∈ [a, b, c], sep ∉ part) ↔ sep ∉ a ∧ sep ∉ b ∧ sep ∉ c := by simp
  rw [split_eq_iff, hjoined, hfree]
  constructor
  · rintro ⟨-, hparts, rfl⟩
    exact ⟨rfl, hparts⟩
  · rintro ⟨rfl, hparts⟩
    exact ⟨List.cons_ne_nil _ _, hparts, rfl⟩

theorem mem_intercalate {c : Char} {sep : String} {parts : List String}
    (h : c ∈ (String.intercalate sep parts).toList) : c ∈ sep.toList ∨ ∃ part ∈ parts, c ∈ part.toList := by
  induction parts with
  | nil => simp at h
  | cons part rest ih =>
    cases rest with
    | nil =>
      rw [String.intercalate_singleton] at h
      exact .inr ⟨part, List.mem_singleton_self _, h⟩
    | cons next rest =>
      rw [String.intercalate_cons_cons, String.toList_append, String.toList_append, List.mem_append,
        List.mem_append] at h
      rcases h with (h | h) | h
      · exact .inr ⟨part, List.mem_cons_self, h⟩
      · exact .inl h
      · rcases ih h with hsep | ⟨other, hother, hc⟩
        · exact .inl hsep
        · exact .inr ⟨other, List.mem_cons_of_mem _ hother, hc⟩

end DriverHub.Text
