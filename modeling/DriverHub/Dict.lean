/-! Finite maps as lists of entries, kept in strictly increasing order of their keys. Objects of
every kind and the tables of records are such lists, so two maps with the same entries are the same
list. -/

namespace DriverHub

/-- Entries under distinct keys, the smallest key first. -/
abbrev Dict (κ α : Type) := List (κ × α)

namespace Dict

variable {κ α β : Type} [DecidableEq κ]

/-- The entry under `key`. -/
def find? (key : κ) : Dict κ α → Option α
  | [] => none
  | (k, v) :: rest => if k = key then some v else find? key rest

theorem mem_of_find? {key : κ} {value : α} {dict : Dict κ α} (h : find? key dict = some value) :
    (key, value) ∈ dict := by
  induction dict with
  | nil => simp [find?] at h
  | cons e rest ih =>
    obtain ⟨k, v⟩ := e
    by_cases hk : k = key
    · simp [find?, hk] at h
      simp [hk, h]
    · simp [find?, hk] at h
      exact List.mem_cons_of_mem _ (ih h)

/-- Whether there is an entry under `key`. -/
def contains (key : κ) (dict : Dict κ α) : Bool := (find? key dict).isSome

/-- Removes the entry under `key`. -/
def erase (key : κ) (dict : Dict κ α) : Dict κ α := dict.filter fun e => e.1 ≠ key

/-- Changes the entry under `key`, if there is one. -/
def modify (key : κ) (f : α → α) (dict : Dict κ α) : Dict κ α :=
  dict.map fun e => if e.1 = key then (e.1, f e.2) else e

def keys (dict : Dict κ α) : List κ := dict.map (·.1)

def values (dict : Dict κ α) : List α := dict.map (·.2)

variable [LT κ] [DecidableLT κ]

/-- Adds an entry in its place; an entry that was there before is replaced. -/
def insert (key : κ) (value : α) : Dict κ α → Dict κ α
  | [] => [(key, value)]
  | (k, v) :: rest =>
    if key < k then (key, value) :: (k, v) :: rest
    else if key = k then (key, value) :: rest
    else (k, v) :: insert key value rest

/-- The entries of both; under a key of both the entry of `first` stays. -/
def union (first second : Dict κ α) : Dict κ α :=
  second.foldl (fun dict e => if contains e.1 dict then dict else insert e.1 e.2 dict) first

/-- Sorts entries by key; of entries under one key the last is kept. -/
def ofList (entries : List (κ × α)) : Dict κ α :=
  entries.foldl (fun dict e => insert e.1 e.2 dict) []

/-- Strictly increasing keys. -/
def Sorted (dict : Dict κ α) : Prop := dict.Pairwise fun a b => a.1 < b.1

end Dict

end DriverHub
