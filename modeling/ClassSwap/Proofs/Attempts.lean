import Mathlib.Tactic.Common

namespace ClassSwap

variable {ε α β : Type} {b : β}

theorem ok_bind (a : α) (f : α → Except ε β) : (Except.ok a >>= f) = f a :=
  rfl

theorem bind_eq_ok {x : Except ε α} {f : α → Except ε β} :
    (x >>= f) = .ok b ↔ ∃ a, x = .ok a ∧ f a = .ok b := by
  cases x with
  | error e => exact ⟨nofun, nofun⟩
  | ok a =>
    constructor
    · exact fun done => ⟨a, rfl, done⟩
    · rintro ⟨_, ⟨⟩, done⟩
      exact done

theorem seq_eq_ok {x : Except ε Unit} {y : Except ε β} :
    (do x; y) = .ok b ↔ x = .ok () ∧ y = .ok b := by
  rw [bind_eq_ok]
  exact ⟨fun ⟨(), done⟩ => done, fun done => ⟨(), done⟩⟩

section State

variable {ρ : Type} {s s' : ρ} {w : ExceptT ε (StateM ρ) α}

theorem run_bind {a : α} (done : w.run.run s = (.ok a, s')) (f : α → ExceptT ε (StateM ρ) β) :
    (w >>= f).run.run s = (f a).run.run s' := by
  simp only [ExceptT.run_bind, StateT.run_bind, done]
  rfl

theorem run_bind_error {e : ε} (failed : w.run.run s = (.error e, s'))
    (f : α → ExceptT ε (StateM ρ) β) : (w >>= f).run.run s = (.error e, s') := by
  simp only [ExceptT.run_bind, StateT.run_bind, failed]
  rfl

end State

end ClassSwap
