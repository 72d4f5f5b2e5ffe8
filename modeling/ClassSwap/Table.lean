namespace ClassSwap

abbrev Table (κ α : Type) := List (κ × α)

namespace Table

variable {κ α : Type} [DecidableEq κ]

def get? (t : Table κ α) (key : κ) : Option α :=
  match t with
  | [] => none
  | entry :: rest => if entry.1 = key then some entry.2 else get? rest key

/-- Puts a value at a key, replacing the one that is there. -/
def put (t : Table κ α) (key : κ) (value : α) : Table κ α :=
  match t with
  | [] => [(key, value)]
  | entry :: rest =>
    if entry.1 = key then (key, value) :: rest else entry :: put rest key value

def keys (t : Table κ α) : List κ := t.map (·.1)

@[simp] theorem get?_nil (key : κ) : get? ([] : Table κ α) key = none := rfl

theorem get?_cons (entry : κ × α) (t : Table κ α) (key : κ) :
    get? (entry :: t) key = if entry.1 = key then some entry.2 else get? t key := rfl

@[simp] theorem get?_put_self (t : Table κ α) (key : κ) (value : α) :
    (t.put key value).get? key = some value := by
  induction t with
  | nil => simp [put, get?_cons]
  | cons entry rest ih =>
    by_cases h : entry.1 = key
    · simp [put, h, get?_cons]
    · simp [put, h, get?_cons, ih]

theorem get?_put_of_ne {key other : κ} (t : Table κ α) (value : α) (h : other ≠ key) :
    (t.put key value).get? other = t.get? other := by
  induction t with
  | nil => simp [put, get?_cons, Ne.symm h]
  | cons entry rest ih =>
    by_cases hk : entry.1 = key
    · simp [put, hk, get?_cons, Ne.symm h]
    · simp [put, hk, get?_cons, ih]

end Table

end ClassSwap
