/-! Keys with values, in the order in which keys first came. Replacing a value keeps the key's place; removing a
key keeps the order of the others. -/

namespace DataModel

/-- Keys with values, in order. -/
abbrev Assoc (α : Type) := List (String × α)

namespace Assoc

variable {α : Type}

/-- The value under `key`. -/
def get? (r : Assoc α) (key : String) : Option α :=
  match r with
  | [] => none
  | (k, v) :: rest => if k = key then some v else get? rest key

/-- Whether `key` is present. -/
def has (r : Assoc α) (key : String) : Bool :=
  (get? r key).isSome

/-- Put `value` under `key`: in the key's place when it is present, at the end otherwise. -/
def insert (r : Assoc α) (key : String) (value : α) : Assoc α :=
  match r with
  | [] => [(key, value)]
  | (k, v) :: rest => if k = key then (k, value) :: rest else (k, v) :: insert rest key value

/-- Remove `key`. -/
def erase (r : Assoc α) (key : String) : Assoc α :=
  match r with
  | [] => []
  | (k, v) :: rest => if k = key then rest else (k, v) :: erase rest key

/-- The keys in order. -/
def keys (r : Assoc α) : List String :=
  r.map Prod.fst

/-- Insert the pairs of a list one after the other. -/
def extend (r : Assoc α) (pairs : List (String × α)) : Assoc α :=
  pairs.foldl (fun acc p => insert acc p.1 p.2) r

/-- The pairs of a list with repeated keys merged: first place, last value. -/
def ofPairs (pairs : List (String × α)) : Assoc α :=
  extend [] pairs

/-- Put `value` under `key` in a list ordered by key. -/
def insertSorted (r : Assoc α) (key : String) (value : α) : Assoc α :=
  match r with
  | [] => [(key, value)]
  | (k, v) :: rest =>
    if key < k then (key, value) :: (k, v) :: rest
    else if k = key then (k, value) :: rest
    else (k, v) :: insertSorted rest key value

/-- The pairs ordered by key; of a repeated key the last value. -/
def sortedByKey (pairs : List (String × α)) : Assoc α :=
  pairs.foldl (fun acc p => insertSorted acc p.1 p.2) []

/-- No key stands twice. -/
def Distinct (r : Assoc α) : Prop :=
  (keys r).Nodup

theorem get?_insert_self (r : Assoc α) (key : String) (value : α) :
    get? (insert r key value) key = some value := by
  induction r with
  | nil => simp [insert, get?]
  | cons p rest ih =>
    obtain ⟨k, v⟩ := p
    by_cases h : k = key <;> simp [insert, get?, h, ih]

theorem get?_insert_of_ne {r : Assoc α} {key other : String} {value : α} (h : key ≠ other) :
    get? (insert r key value) other = get? r other := by
  induction r with
  | nil => simp [insert, get?, h]
  | cons p rest ih =>
    obtain ⟨k, v⟩ := p
    by_cases hk : k = key
    · subst hk; simp [insert, get?, h]
    · rw [insert, if_neg hk, get?, get?, ih]

theorem keys_insert_of_mem {r : Assoc α} {key : String} {value : α} (h : key ∈ keys r) :
    keys (insert r key value) = keys r := by
  induction r with
  | nil => simp [keys] at h
  | cons p rest ih =>
    obtain ⟨k, v⟩ := p
    by_cases hk : k = key
    · simp [insert, keys, hk]
    · have hr : key ∈ keys rest := by
        rcases List.mem_cons.1 h with h | h
        · exact absurd h.symm hk
        · exact h
      simpa [insert, keys, hk] using ih hr

theorem keys_insert_of_not_mem {r : Assoc α} {key : String} {value : α} (h : key ∉ keys r) :
    keys (insert r key value) = keys r ++ [key] := by
  induction r with
  | nil => simp [insert, keys]
  | cons p rest ih =>
    obtain ⟨k, v⟩ := p
    simp only [keys, List.map_cons, List.mem_cons, not_or] at h
    have hk : ¬ k = key := fun e => h.1 e.symm
    simpa [insert, keys, hk] using ih h.2

end Assoc

end DataModel
