import ClassSwap.Agent.MockTasks
import Mathlib.Tactic.Common

namespace ClassSwap

open MockTasks

namespace MockTask

/-- The steps of a request: the stage that comes next, and what is done. -/
inductive Advance (a : MockAgent) (n : Nat) (t : MockTask) : TaskStage → List TaskAct → Prop
  | measured (stage : t.stage = .measuring) : Advance a n t .noting [.measured n t.count]
  | noted (stage : t.stage = .noting) : Advance a n t .checking [.noted n t.request]
  | dropped (stage : t.stage = .checking) (drops : a.drops t.action = true) :
    Advance a n t .dropping [.dropped n t.action]
  | kept (stage : t.stage = .checking) (keeps : a.drops t.action = false) :
    Advance a n t (t.afterCheck a.config) [.kept n t.action]
  | cut (stage : t.stage = .dropping) : Advance a n t .leaving [.ended n]
  | left (stage : t.stage = .leaving) : Advance a n t .finished [.closed t.connection]
  | uploaded (upload : MockUpload) (stage : t.stage = .uploading upload) :
    Advance a n t .answering [.uploaded n upload]
  | held (delay : Duration) (stage : t.stage = .answering) (slow : t.delay? a.config = some delay) :
    Advance a n t .waiting [.held (t.reply a.config n) delay]
  | prompt (stage : t.stage = .answering) (prompt : t.delay? a.config = none) :
    Advance a n t t.afterEnd [.ended n]
  | due (stage : t.stage = .waiting) : Advance a n t t.afterEnd [.ended n]
  | abandoned (stage : t.stage = .waiting) (halted : a.halted = true) :
    Advance a n t .finished [.ended n, .gaveUp n]
  | halted (stage : t.stage = .halting) : Advance a n t .replying [.halted]
  | wrote (chunk rest : Bytes)
    (turn : t.stage = .replying ∧ t.frame? a.config = some (chunk ++ rest) ∨
      t.stage = .writing (chunk ++ rest)) (some_ : chunk = [] → rest = []) :
    Advance a n t (if rest = [] then .finished else .writing rest) [.wrote n t.connection chunk]
  | failed (turn : t.stage = .replying ∨ ∃ rest, t.stage = .writing rest) :
    Advance a n t .finished [.gaveUp n]

variable {a : MockAgent} {n : Nat} {t : MockTask} {stage : TaskStage} {acts : List TaskAct}

theorem advance_of_next (next : t.next? a.config n (a.drops t.action) = some (stage, acts)) :
    Advance a n t stage acts := by
  unfold next? at next
  split at next
  next here =>
    cases next
    exact .measured here
  next here =>
    cases next
    exact .noted here
  next here =>
    split at next
    next drops =>
      cases next
      exact .dropped here drops
    next keeps =>
      cases next
      exact .kept here (Bool.not_eq_true _ ▸ keeps)
  next here =>
    cases next
    exact .cut here
  next here =>
    cases next
    exact .left here
  next upload here =>
    cases next
    exact .uploaded upload here
  next here =>
    split at next
    next delay slow =>
      cases next
      exact .held delay here slow
    next prompt =>
      cases next
      exact .prompt here prompt
  next here =>
    cases next
    exact .halted here
  all_goals cases next

theorem advance_of_due (due : t.due? n = some (stage, acts)) : Advance a n t stage acts := by
  unfold due? at due
  split at due
  next here =>
    cases due
    exact .due here
  next => cases due

theorem advance_of_abandon (left : t.abandon? n a.halted = some (stage, acts)) :
    Advance a n t stage acts := by
  unfold abandon? at left
  split at left
  next here =>
    split at left
    next halted =>
      cases left
      exact .abandoned here halted
    next => cases left
  next => cases left

theorem advance_of_write {free : Bool} {more : Nat}
    (written : t.write? a.config n free more = some (stage, acts)) : Advance a n t stage acts := by
  obtain ⟨rest, unwritten, made⟩ := Option.map_eq_some_iff.mp written
  have turn : t.stage = .replying ∧ t.frame? a.config = some rest ∨ t.stage = .writing rest := by
    unfold unwritten? at unwritten
    split at unwritten
    next here =>
      split at unwritten
      · exact .inl ⟨here, unwritten⟩
      · cases unwritten
    next here =>
      cases unwritten
      exact .inr here
    next => cases unwritten
  rw [← List.take_append_drop (more + 1) rest] at turn
  have done := Advance.wrote (n := n) _ _ turn fun none_ => by
    rw [(List.take_eq_nil_iff.mp none_).resolve_left nofun, List.drop_nil]
  simp only [List.drop_eq_nil_iff] at done
  cases made
  exact done

theorem advance_of_fail (failed : t.fail? n = some (stage, acts)) : Advance a n t stage acts := by
  unfold fail? at failed
  split at failed
  next here =>
    cases failed
    exact .failed (.inl here)
  next rest here =>
    cases failed
    exact .failed (.inr ⟨rest, here⟩)
  next => cases failed

end MockTask

namespace MockTasks

/-- The steps of the agent: one of its own, one that takes up a request, one of a request. -/
inductive Step (s : MockTasks) : MockTasks → Prop
  | idle : Step s s
  | own (act : TaskAct) (own : act = .connected ∨ (∃ c, act = .closed c) ∨ act = .halted) :
    Step s (s.perform [act])
  | begun (connection : Nat) (r : Request) : Step s (s.begin connection r)
  | advanced (n : Nat) (t : MockTask) (stage : TaskStage) (acts : List TaskAct)
    (found : s.tasks[n]? = some t) (advance : t.Advance s.agent n stage acts) :
    Step s ({ s with tasks := s.tasks.set n { t with stage } }.perform acts)

variable {s : MockTasks}

theorem step_of_move {n : Nat} {f : MockTask → Option (TaskStage × List TaskAct)}
    (advance : ∀ t stage acts, f t = some (stage, acts) → t.Advance s.agent n stage acts) :
    Step s (s.move n f) := by
  unfold move
  split
  · exact .idle
  next t found =>
    split
    · exact .idle
    next stage acts next => exact .advanced n t stage acts found (advance t stage acts next)

theorem step_cases (s : MockTasks) (e : TaskEvent) : Step s (s.step e) := by
  cases e with
  | accepted => exact .own _ (.inl rfl)
  | received connection payload =>
    rw [step]
    split
    · unfold received
      split
      · exact .own _ (.inr (.inl ⟨_, rfl⟩))
      · exact .begun connection _
    · exact .idle
  | goesOn n => exact step_of_move fun _ _ _ => MockTask.advance_of_next
  | due n => exact step_of_move fun _ _ _ => MockTask.advance_of_due
  | abandoned n => exact step_of_move fun _ _ _ => MockTask.advance_of_abandon
  | written n more => exact step_of_move fun _ _ _ => MockTask.advance_of_write
  | failed n => exact step_of_move fun _ _ _ => MockTask.advance_of_fail
  | lost connection =>
    rw [step]
    split
    · exact .own _ (.inr (.inl ⟨_, rfl⟩))
    · exact .idle
  | stopped => exact .own _ (.inr (.inr rfl))

/-- What holds at the start and is kept by each step holds in every run. -/
theorem run_induction {P : MockTasks → Prop} {config : MockConfig} (first : P (start config))
    (keeps : ∀ s s', P s → Step s s' → P s') (events : List TaskEvent) :
    P ((start config).run events) := by
  unfold run
  generalize start config = s at first
  induction events generalizing s with
  | nil => exact first
  | cons e events ih => exact ih _ (keeps s _ first (step_cases s e))

end MockTasks

end ClassSwap
