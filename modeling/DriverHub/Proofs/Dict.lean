import DriverHub.Dict
import Mathlib.Data.List.Nodup
import Mathlib.Order.Defs.Unbundled
import Mathlib.Tactic.Common

/-! Maps by their entries: what each operation does to the entry under a key. Insertion and removal
need no order for that; where the keys are in order, membership and lookup say the same. -/

namespace DriverHub.Dict

variable {κ α β : Type} [DecidableEq κ]

@[simp] theorem find?_nil (k : κ) : find? k ([] : Dict κ α) = none := rfl

@[simp] theorem find?_cons (k key : κ) (value : α) (rest : Dict κ α) :
    find? k ((key, value) :: rest) = if key = k then some value else find? k rest := rfl

theorem find?_map (f : κ → α → β) (k : κ) (dict : Dict κ α) :
    find? k (dict.map fun e => (e.1, f e.1 e.2)) = (find? k dict).map (f k) := by
  induction dict with
  | nil => rfl
  | cons e rest ih =>
    obtain ⟨key, v⟩ := e
    by_cases hk : key = k <;> simp [hk, ih]

theorem find?_isSome_iff {k : κ} {dict : Dict κ α} : (find? k dict).isSome ↔ k ∈ dict.map (·.1) := by
  induction dict with
  | nil => simp
  | cons e rest ih =>
    obtain ⟨key, v⟩ := e
    by_cases hk : key = k
    · simp [hk]
    · rw [find?_cons, if_neg hk, ih, List.map_cons, List.mem_cons, or_iff_right (Ne.symm hk)]

theorem contains_eq (k : κ) (dict : Dict κ α) : contains k dict = (find? k dict).isSome := rfl

theorem find?_erase (key k : κ) (dict : Dict κ α) :
    find? k (erase key dict) = if key = k then none else find? k dict := by
  induction dict with
  | nil => simp [erase]
  | cons e rest ih =>
    obtain ⟨l, v⟩ := e
    simp only [erase, ne_eq, decide_not] at ih ⊢
    by_cases hl : l = key
    · subst hl
      by_cases hk : l = k <;> simp_all
    · by_cases hk : l = k
      · subst hk
        simp [hl, Ne.symm hl]
      · simp [hl, hk, ih]

theorem find?_modify (key k : κ) (f : α → α) (dict : Dict κ α) :
    find? k (modify key f dict) = if key = k then (find? k dict).map f else find? k dict := by
  induction dict with
  | nil => simp [modify]
  | cons e rest ih =>
    obtain ⟨l, v⟩ := e
    unfold modify at ih ⊢
    by_cases hl : l = key
    · subst hl
      by_cases hk : l = k <;> simp_all
    · by_cases hk : l = k
      · subst hk
        simp [hl, Ne.symm hl]
      · simp [hl, hk, ih]

/-- A key that occurs is found. -/
theorem exists_find? {key : κ} {value : α} {dict : Dict κ α} (h : (key, value) ∈ dict) :
    ∃ v, find? key dict = some v := by
  induction dict with
  | nil => cases h
  | cons e rest ih =>
    obtain ⟨k, v⟩ := e
    by_cases hk : k = key
    · exact ⟨v, by simp [hk]⟩
    · have hrest : (key, value) ∈ rest := by
        rcases List.mem_cons.1 h with h | h
        · exact absurd (congrArg Prod.fst h).symm hk
        · exact h
      simpa [hk] using ih hrest

omit [DecidableEq κ] in
theorem mem_values {value : α} {dict : Dict κ α} :
    value ∈ values dict ↔ ∃ key, (key, value) ∈ dict := by
  simp [values]

theorem mem_of_mem_erase {key : κ} {e : κ × α} {dict : Dict κ α} (h : e ∈ erase key dict) :
    e ∈ dict :=
  (List.mem_filter.1 h).1

theorem erase_of_find? {key : κ} {dict : Dict κ α} (h : find? key dict = none) :
    erase key dict = dict := by
  refine List.filter_eq_self.2 ?_
  rintro ⟨k, value⟩ hmem
  have hne : k ≠ key := by
    rintro rfl
    obtain ⟨v, hv⟩ := exists_find? hmem
    rw [h] at hv
    cases hv
  simpa using hne

theorem not_contains_iff (k : κ) (dict : Dict κ α) : ¬ contains k dict ↔ find? k dict = none := by
  rw [contains_eq, Option.not_isSome_iff_eq_none]

theorem mem_of_mem_modify {key k : κ} {f : α → α} {value : α} {dict : Dict κ α}
    (h : (k, value) ∈ modify key f dict) : ∃ old, (k, old) ∈ dict ∧ (value = old ∨ value = f old) := by
  obtain ⟨⟨l, old⟩, hmem, he⟩ := List.mem_map.1 h
  split at he
  · cases he
    exact ⟨old, hmem, .inr rfl⟩
  · cases he
    exact ⟨value, hmem, .inl rfl⟩

variable [LT κ]

theorem sorted_erase {dict : Dict κ α} (key : κ) (h : Sorted dict) : Sorted (erase key dict) :=
  h.filter _

theorem sorted_modify {dict : Dict κ α} (key : κ) (f : α → α) (h : Sorted dict) :
    Sorted (modify key f dict) := by
  refine List.Pairwise.map _ ?_ h
  intro a b hab
  split <;> split <;> exact hab

/-- In a map whose keys are in order each entry is the one that is found under its key. -/
theorem find?_of_mem [IsStrictTotalOrder κ (· < ·)] {key : κ} {value : α} {dict : Dict κ α}
    (hs : Sorted dict) (h : (key, value) ∈ dict) : find? key dict = some value := by
  induction dict with
  | nil => cases h
  | cons e rest ih =>
    obtain ⟨k, v⟩ := e
    obtain ⟨hfirst, hrest⟩ := List.pairwise_cons.1 hs
    rcases List.mem_cons.1 h with h | h
    · obtain ⟨rfl, rfl⟩ := Prod.mk.inj h
      simp
    · have hne : k ≠ key := ne_of_irrefl (hfirst _ h)
      simp [hne, ih hrest h]

omit [DecidableEq κ] in
theorem nodup_keys [IsStrictTotalOrder κ (· < ·)] {dict : Dict κ α} (hs : Sorted dict) :
    (dict.map (·.1)).Nodup := by
  rw [List.Nodup, List.pairwise_map]
  refine List.Pairwise.imp ?_ hs
  intro a b hlt heq
  exact irrefl _ (heq ▸ hlt)

theorem find?_eq_none_of_lt [IsStrictTotalOrder κ (· < ·)] {k key : κ} {value : α} {rest : Dict κ α}
    (hs : Sorted ((key, value) :: rest)) (h : k < key) : find? k ((key, value) :: rest) = none := by
  obtain ⟨hfirst, -⟩ := List.pairwise_cons.1 hs
  rw [← Option.not_isSome_iff_eq_none, Option.isSome_iff_exists]
  intro hex
  obtain ⟨v, hv⟩ := hex
  rcases List.mem_cons.1 (mem_of_find? hv) with heq | hmem
  · cases heq
    exact irrefl _ h
  · exact irrefl _ (IsTrans.trans _ _ _ h (hfirst _ hmem))

theorem find?_head_rest [IsStrictTotalOrder κ (· < ·)] {key : κ} {value : α} {rest : Dict κ α}
    (hs : Sorted ((key, value) :: rest)) : find? key rest = none := by
  obtain ⟨hfirst, -⟩ := List.pairwise_cons.1 hs
  rw [← Option.not_isSome_iff_eq_none, Option.isSome_iff_exists]
  intro hex
  obtain ⟨v, hv⟩ := hex
  have hlt : key < key := hfirst (key, v) (mem_of_find? hv)
  exact irrefl _ hlt

/-- Maps whose keys are in order are equal when the same is found in both. -/
theorem ext_of_sorted [IsStrictTotalOrder κ (· < ·)] {dict other : Dict κ α} (hd : Sorted dict)
    (ho : Sorted other) (h : ∀ k, find? k dict = find? k other) : dict = other := by
  induction dict generalizing other with
  | nil =>
    cases other with
    | nil => rfl
    | cons e rest =>
      have hkey := h e.1
      rw [find?_nil, find?_cons, if_pos rfl] at hkey
      cases hkey
  | cons e rest ih =>
    obtain ⟨k, v⟩ := e
    have hk := h k
    rw [find?_cons, if_pos rfl] at hk
    cases other with
    | nil => cases hk
    | cons d rest' =>
      obtain ⟨l, w⟩ := d
      have hl := h l
      rw [find?_cons l l, if_pos rfl] at hl
      have hkl : k = l := by
        rcases trichotomous_of (· < ·) k l with hlt | heq | hlt
        · rw [find?_eq_none_of_lt ho hlt] at hk
          cases hk
        · exact heq
        · rw [find?_eq_none_of_lt hd hlt] at hl
          cases hl
      subst hkl
      rw [find?_cons, if_pos rfl] at hk
      cases hk
      have hrest : rest = rest' := by
        refine ih (List.pairwise_cons.1 hd).2 (List.pairwise_cons.1 ho).2 fun k' => ?_
        by_cases hk' : k = k'
        · subst hk'
          rw [find?_head_rest hd, find?_head_rest ho]
        · have hboth := h k'
          rw [find?_cons, find?_cons, if_neg hk', if_neg hk'] at hboth
          exact hboth
      rw [hrest]

/-- Two such maps have only to be compared at the keys that they may have. -/
theorem ext_of_keys [IsStrictTotalOrder κ (· < ·)] {dict other : Dict κ α} {keys : List κ}
    (hd : Sorted dict) (ho : Sorted other) (hdict : ∀ k, (find? k dict).isSome → k ∈ keys)
    (hother : ∀ k, (find? k other).isSome → k ∈ keys) (h : ∀ k ∈ keys, find? k dict = find? k other) :
    dict = other := by
  apply ext_of_sorted hd ho
  intro k
  by_cases hk : k ∈ keys
  · exact h k hk
  · have hnone : find? k dict = none := by simpa using mt (hdict k) hk
    have hnone' : find? k other = none := by simpa using mt (hother k) hk
    rw [hnone, hnone']

variable [DecidableLT κ]

theorem mem_insert {key : κ} {value : α} {e : κ × α} {dict : Dict κ α}
    (h : e ∈ insert key value dict) : e = (key, value) ∨ e ∈ dict := by
  induction dict with
  | nil => exact .inl (List.mem_singleton.1 h)
  | cons d rest ih =>
    obtain ⟨k, v⟩ := d
    unfold insert at h
    split at h
    · exact List.mem_cons.1 h
    · split at h
      · rcases List.mem_cons.1 h with h | h
        · exact .inl h
        · exact .inr (List.mem_cons_of_mem _ h)
      · rcases List.mem_cons.1 h with h | h
        · exact .inr (h ▸ List.mem_cons_self)
        · exact (ih h).imp_right (List.mem_cons_of_mem _)

/-- Insertion changes what is found under its key, and nothing else. -/
theorem find?_insert (key k : κ) (value : α) (dict : Dict κ α) :
    find? k (insert key value dict) = if key = k then some value else find? k dict := by
  induction dict with
  | nil => rfl
  | cons e rest ih =>
    obtain ⟨l, v⟩ := e
    unfold insert
    split
    · rfl
    · split
      · next h =>
        subst h
        by_cases hk : key = k <;> simp [hk]
      · next h =>
        by_cases hk : key = k
        · subst hk
          simp [Ne.symm h, ih]
        · simp [hk, ih]

/-- Of two maps together the first one goes before. -/
theorem find?_union (key : κ) (first second : Dict κ α) :
    find? key (union first second) = (find? key first).or (find? key second) := by
  unfold union
  induction second generalizing first with
  | nil => simp
  | cons e rest ih =>
    obtain ⟨k, v⟩ := e
    rw [List.foldl_cons, ih, find?_cons]
    by_cases hk : k = key
    · subst hk
      cases hfind : find? k first with
      | some w => simp [contains, hfind]
      | none => simp [contains, hfind, find?_insert]
    · rw [if_neg hk]
      split
      · rfl
      · rw [find?_insert, if_neg hk]

/-- Inserts entries one after another. -/
def insertAll : List (κ × α) → Dict κ α → Dict κ α
  | [], dict => dict
  | e :: rest, dict => insertAll rest (insert e.1 e.2 dict)

theorem find?_insertAll_of_ne {k : κ} {entries : List (κ × α)} (h : ∀ e ∈ entries, e.1 ≠ k)
    (dict : Dict κ α) : find? k (insertAll entries dict) = find? k dict := by
  induction entries generalizing dict with
  | nil => rfl
  | cons e rest ih =>
    have hrest : ∀ e ∈ rest, e.1 ≠ k := fun e he => h e (List.mem_cons_of_mem _ he)
    unfold insertAll
    rw [ih hrest, find?_insert, if_neg (h e List.mem_cons_self)]

/-- Of entries under different keys none is lost. -/
theorem find?_insertAll_of_mem {e : κ × α} {entries : List (κ × α)} (he : e ∈ entries)
    (h : ∀ d ∈ entries, d.1 = e.1 → d = e) (dict : Dict κ α) :
    find? e.1 (insertAll entries dict) = some e.2 := by
  induction entries generalizing dict with
  | nil => cases he
  | cons d rest ih =>
    unfold insertAll
    by_cases hmem : e ∈ rest
    · exact ih hmem (fun d hd => h d (List.mem_cons_of_mem _ hd)) _
    · have hne : ∀ d ∈ rest, d.1 ≠ e.1 := by
        intro d hd hk
        exact hmem (h d (List.mem_cons_of_mem _ hd) hk ▸ hd)
      rw [find?_insertAll_of_ne hne, find?_insert]
      rcases List.mem_cons.1 he with rfl | hrest
      · rw [if_pos rfl]
      · exact absurd hrest hmem

theorem ofList_eq_insertAll (entries : List (κ × α)) : ofList entries = insertAll entries [] := by
  suffices ∀ dict : Dict κ α,
      entries.foldl (fun dict e => insert e.1 e.2 dict) dict = insertAll entries dict from this []
  induction entries with
  | nil => exact fun _ => rfl
  | cons e rest ih => exact fun dict => ih _

/-- Of entries under different keys each is found. -/
theorem find?_ofList_of_mem {key : κ} {value : α} {entries : List (κ × α)}
    (hnodup : (entries.map (·.1)).Nodup) (h : (key, value) ∈ entries) :
    find? key (ofList entries) = some value := by
  rw [ofList_eq_insertAll]
  refine find?_insertAll_of_mem h ?_ []
  intro d hd hk
  exact List.inj_on_of_nodup_map hnodup hd h hk

/-- Entries under different keys are found as they are listed. -/
theorem find?_ofList {entries : List (κ × α)} (hnodup : (entries.map (·.1)).Nodup) (k : κ) :
    find? k (ofList entries) = find? k entries := by
  cases hk : find? k entries with
  | some v => exact find?_ofList_of_mem hnodup (mem_of_find? hk)
  | none =>
    rw [ofList_eq_insertAll]
    refine find?_insertAll_of_ne ?_ []
    rintro ⟨key, v⟩ hmem rfl
    obtain ⟨w, hw⟩ := exists_find? hmem
    simp [hk] at hw

/-- What is listed under different keys is found. -/
theorem find?_of_nodup {key : κ} {value : α} {entries : List (κ × α)}
    (hnodup : (entries.map (·.1)).Nodup) (h : (key, value) ∈ entries) :
    find? key entries = some value := by
  rw [← find?_ofList hnodup]
  exact find?_ofList_of_mem hnodup h

theorem insert_map (f : κ → α → β) (key : κ) (value : α) (dict : Dict κ α) :
    insert key (f key value) (dict.map fun e => (e.1, f e.1 e.2)) =
      (insert key value dict).map fun e => (e.1, f e.1 e.2) := by
  induction dict with
  | nil => rfl
  | cons e rest ih =>
    obtain ⟨k, v⟩ := e
    simp only [List.map_cons, insert]
    split
    · rfl
    · split
      · next heq =>
        subst heq
        rfl
      · rw [ih, List.map_cons]

/-- Which entry is kept does not depend on the values. -/
theorem ofList_map (f : κ → α → β) (entries : List (κ × α)) :
    ofList (entries.map fun e => (e.1, f e.1 e.2)) =
      (ofList entries).map fun e => (e.1, f e.1 e.2) := by
  suffices ∀ dict : Dict κ α,
      insertAll (entries.map fun e => (e.1, f e.1 e.2)) (dict.map fun e => (e.1, f e.1 e.2)) =
        (insertAll entries dict).map fun e => (e.1, f e.1 e.2) by
    rw [ofList_eq_insertAll, ofList_eq_insertAll]
    exact this []
  induction entries with
  | nil => exact fun _ => rfl
  | cons e rest ih =>
    intro dict
    rw [List.map_cons]
    unfold insertAll
    rw [insert_map, ih]

theorem find?_ofList_map {entries : List (κ × α)} (hnodup : (entries.map (·.1)).Nodup) (f : κ → α → β)
    (k : κ) : find? k (ofList (entries.map fun e => (e.1, f e.1 e.2))) = (find? k entries).map (f k) := by
  rw [ofList_map, find?_map, find?_ofList hnodup]

theorem mem_of_mem_ofList {e : κ × α} {entries : List (κ × α)} (h : e ∈ ofList entries) :
    e ∈ entries := by
  suffices ∀ dict : Dict κ α, e ∈ entries.foldl (fun dict e => insert e.1 e.2 dict) dict →
      e ∈ entries ∨ e ∈ dict from (this [] h).resolve_right List.not_mem_nil
  clear h
  induction entries with
  | nil => exact fun dict h => .inr h
  | cons d rest ih =>
    intro dict h
    rcases ih _ h with h | h
    · exact .inl (List.mem_cons_of_mem _ h)
    · rcases mem_insert h with rfl | h
      · exact .inl List.mem_cons_self
      · exact .inr h

variable [IsStrictTotalOrder κ (· < ·)]

theorem sorted_insert {dict : Dict κ α} (key : κ) (value : α) (h : Sorted dict) :
    Sorted (insert key value dict) := by
  induction dict with
  | nil => exact List.pairwise_singleton ..
  | cons e rest ih =>
    obtain ⟨l, v⟩ := e
    obtain ⟨hfirst, hrest⟩ := List.pairwise_cons.1 h
    unfold insert
    split
    · next hlt =>
      refine List.pairwise_cons.2 ⟨?_, h⟩
      intro d hd
      rcases List.mem_cons.1 hd with rfl | hd
      · exact hlt
      · exact IsTrans.trans _ _ _ hlt (hfirst d hd)
    · next hlt =>
      split
      · next heq =>
        subst heq
        exact List.pairwise_cons.2 ⟨hfirst, hrest⟩
      · next hne =>
        have hgt : l < key := by
          rcases trichotomous_of (· < ·) key l with h | h | h
          · exact absurd h hlt
          · exact absurd h hne
          · exact h
        refine List.pairwise_cons.2 ⟨?_, ih hrest⟩
        intro d hd
        rcases mem_insert hd with rfl | hd
        · exact hgt
        · exact hfirst d hd

theorem sorted_ofList (entries : List (κ × α)) : Sorted (ofList entries) := by
  suffices ∀ dict : Dict κ α, Sorted dict →
      Sorted (entries.foldl (fun dict e => insert e.1 e.2 dict) dict) from this [] List.Pairwise.nil
  induction entries with
  | nil => exact fun _ h => h
  | cons e rest ih => exact fun dict h => ih _ (sorted_insert e.1 e.2 h)

end DriverHub.Dict
