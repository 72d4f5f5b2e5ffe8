namespace ClassSwap.Unicode

/-- Start of each run and its value, by rising start. -/
structure Runs (α : Type) where
  entries : Array (Nat × α)

namespace Runs

variable {α : Type}

/-- Halves the range `[low, high)` until it holds the last run that starts at or before `n`. -/
def search (runs : Runs α) (n : Nat) : (tries : Nat) → (low high : Nat) → Nat
  | 0, low, _ => low
  | tries + 1, low, high =>
    if high ≤ low + 1 then low
    else
      let middle := (low + high) / 2
      match runs.entries[middle]? with
      | some (start, _) =>
        if start ≤ n then search runs n tries middle high else search runs n tries low middle
      | none => low

/-- The value of the run that `n` lies in. -/
def find? (runs : Runs α) (n : Nat) : Option α :=
  match runs.entries[runs.search n 32 0 runs.entries.size]? with
  | some (start, value) => if start ≤ n then some value else none
  | none => none

end Runs

end ClassSwap.Unicode
