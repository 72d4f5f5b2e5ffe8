import ClassSwap.Proofs.LaneMove
import Mathlib.Data.List.Induction

namespace ClassSwap

namespace Channel

abbrev History := List (Target × LaneEvent)

def fresh (patience : Duration) : Channel := { patience }

abbrev after (patience : Duration) (events : History) : Channel := (fresh patience).run events

def issued (c : Channel) : History → Nat
  | [] => 0
  | e :: events =>
    (if e.2 = .grant && (c.lane e.1).takesNumber then 1 else 0) + (c.step e.1 e.2).issued events

/-- The calls that have come in for a target, in order. The place of a call is its ticket. -/
def callsOn (t : Target) (events : History) : List Operation :=
  events.filterMap fun e =>
    match e.2 with
    | .call operation => if e.1 = t then some operation else none
    | _ => none

/-- What `f` sees in the steps of the lane of a target, in order. -/
def record {α : Type} (f : Lane → LaneEvent → List α) (t : Target) (c : Channel) :
    History → List α
  | [] => []
  | e :: events =>
    (if e.1 = t then f (c.lane t) e.2 else []) ++ record f t (c.step e.1 e.2) events

variable {c : Channel} {patience : Duration} {t : Target} {events : History}

theorem run_append (c : Channel) (events more : History) :
    c.run (events ++ more) = (c.run events).run more :=
  List.foldl_append

theorem run_concat (c : Channel) (events : History) (e : Target × LaneEvent) :
    c.run (events ++ [e]) = (c.run events).step e.1 e.2 := by
  rw [run_append]
  rfl

theorem issued_append (c : Channel) (events more : History) :
    c.issued (events ++ more) = c.issued events + (c.run events).issued more := by
  induction events generalizing c with
  | nil => simp [issued, run]
  | cons e events ih =>
    simp only [List.cons_append, issued, ih]
    rw [show c.run (e :: events) = (c.step e.1 e.2).run events from rfl]
    omega

section Record

variable {α : Type} (f : Lane → LaneEvent → List α)

theorem record_append (t : Target) (c : Channel) (events more : History) :
    record f t c (events ++ more) = record f t c events ++ record f t (c.run events) more := by
  induction events generalizing c with
  | nil => rfl
  | cons e events ih =>
    rw [List.cons_append, record, record, ih, List.append_assoc]
    rfl

theorem record_here (t : Target) (c : Channel) (events : History) (e : LaneEvent) :
    record f t c (events ++ [(t, e)]) = record f t c events ++ f ((c.run events).lane t) e := by
  rw [record_append]
  simp [record]

theorem record_elsewhere (c : Channel) (events : History) {e : Target × LaneEvent}
    (other : e.1 ≠ t) : record f t c (events ++ [e]) = record f t c events := by
  rw [record_append]
  simp [record, other]

/-- What is seen in a run is seen at some place of it. -/
theorem mem_record {f : Lane → LaneEvent → List α} {a : α} (mem : a ∈ record f t c events) :
    ∃ place e, events[place]? = some (t, e) ∧
      a ∈ f ((c.run (events.take place)).lane t) e := by
  induction events generalizing c with
  | nil => cases mem
  | cons e events ih =>
    rcases List.mem_append.mp mem with now | later
    · split at now
      next own => exact ⟨0, e.2, by rw [← own]; rfl, now⟩
      next => cases now
    · obtain ⟨place, event, at_, seen⟩ := ih later
      exact ⟨place + 1, event, at_, seen⟩

end Record

@[simp] theorem run_patience (c : Channel) (events : History) :
    (c.run events).patience = c.patience := by
  induction events generalizing c with
  | nil => rfl
  | cons e events ih => exact ih (c.step e.1 e.2)

@[simp] theorem fresh_lane (patience : Duration) (t : Target) : (fresh patience).lane t = {} := rfl

theorem callsOn_append (t : Target) (events more : History) :
    callsOn t (events ++ more) = callsOn t events ++ callsOn t more :=
  List.filterMap_append

theorem getElem?_append_of_some {α : Type} {xs : List α} (more : List α) {k : Nat} {a : α}
    (h : xs[k]? = some a) : (xs ++ more)[k]? = some a := by
  obtain ⟨bound, _⟩ := List.getElem?_eq_some_iff.mp h
  rw [List.getElem?_append_left bound]
  exact h

theorem take_append_of_some {α : Type} {xs : List α} (more : List α) {k : Nat} {a : α}
    (h : xs[k]? = some a) : (xs ++ more).take k = xs.take k := by
  obtain ⟨bound, _⟩ := List.getElem?_eq_some_iff.mp h
  exact List.take_append_of_le_length (Nat.le_of_lt bound)

theorem after_here (patience : Duration) (t : Target) (events : History) (e : LaneEvent) :
    (after patience (events ++ [(t, e)])).lane t =
      ((after patience events).lane t).step t patience (after patience events).nextId e := by
  rw [after, run_concat, lane_step_self, run_patience]
  rfl

/-- What holds of a lane after some history and is kept by every move of its own, whatever goes on
in other lanes, holds however the run goes on. -/
theorem lane_induction_from {patience : Duration} {t : Target} {P : History → Lane → Prop}
    (past : History) (start : P [] ((after patience past).lane t))
    (elsewhere : ∀ more e, e.1 ≠ t → P more ((after patience (past ++ more)).lane t) →
      P (more ++ [e]) ((after patience (past ++ more)).lane t))
    (here : ∀ more e lane', P more ((after patience (past ++ more)).lane t) →
      Lane.Move t patience (after patience (past ++ more)).nextId
        ((after patience (past ++ more)).lane t) e lane' →
      (after patience (past ++ more ++ [(t, e)])).lane t = lane' → P (more ++ [(t, e)]) lane')
    (more : History) : P more ((after patience (past ++ more)).lane t) := by
  induction more using List.reverseRecOn with
  | nil =>
    rw [List.append_nil]
    exact start
  | append_singleton more e ih =>
    rw [← List.append_assoc]
    by_cases own : e.1 = t
    · subst own
      have move := Lane.step_move e.1 patience (after patience (past ++ more)).nextId
        ((after patience (past ++ more)).lane e.1) e.2
      have eq := after_here patience e.1 (past ++ more) e.2
      rw [show past ++ more ++ [e] = past ++ more ++ [(e.1, e.2)] from rfl, eq]
      exact here more e.2 _ ih move eq
    · rw [after, run_concat, lane_step_of_ne _ _ (Ne.symm own)]
      exact elsewhere more e own ih

/-- What holds of a lane at the start and is kept by every move of its own, whatever goes on in
other lanes, holds after every history. -/
theorem lane_induction {patience : Duration} {t : Target} {P : History → Lane → Prop}
    (start : P [] {})
    (elsewhere : ∀ events e, e.1 ≠ t → P events ((after patience events).lane t) →
      P (events ++ [e]) ((after patience events).lane t))
    (here : ∀ events e lane', P events ((after patience events).lane t) →
      Lane.Move t patience (after patience events).nextId ((after patience events).lane t) e
        lane' →
      (after patience (events ++ [(t, e)])).lane t = lane' → P (events ++ [(t, e)]) lane')
    (events : History) : P events ((after patience events).lane t) :=
  lane_induction_from [] start elsewhere here events

end Channel

end ClassSwap
