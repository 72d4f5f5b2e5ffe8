import ClassSwap.Proofs.TaskCourse
import Mathlib.Data.Nat.Basic
import Mathlib.Order.Basic

namespace ClassSwap

namespace MockTasks

variable {config : MockConfig} {s s' : MockTasks}

theorem begin_getElem? {connection : Nat} {r : Request} {n : Nat} {t : MockTask}
    (found : (s.begin connection r).tasks[n]? = some t) :
    s.tasks[n]? = some t ∨
      n = s.tasks.length ∧ t = ⟨connection, r, s.agent.inFlight + 1, .measuring⟩ := by
  rcases Nat.lt_or_ge n s.tasks.length with old | new
  · exact .inl ((List.getElem?_append_left old).symm.trans found)
  · obtain rfl : n = s.tasks.length := by
      have inside := (List.getElem?_eq_some_iff.mp found).1
      simp only [begin, MockTasks.perform, List.length_append, List.length_singleton] at inside
      omega
    have last : (s.begin connection r).tasks[s.tasks.length]? = _ := List.getElem?_concat_length ..
    exact .inr ⟨rfl, Option.some.inj (found.symm.trans last)⟩

/-- The log tells what has become of everything. -/
structure Logged (config : MockConfig) (s : MockTasks) : Prop where
  same : s.agent.config = config
  agent : s.agent = s.log.foldl MockAgent.after (MockAgent.start config)
  numbered : ∀ act ∈ s.log, ∀ n, act.number? = some n → n < s.tasks.length
  told : ∀ (n : Nat) (t : MockTask), s.tasks[n]? = some t →
    t.Told config n t.stage (s.log.filter (·.isOf n))

theorem after_config (a : MockAgent) (act : TaskAct) : (a.after act).config = a.config := by
  cases act <;> rfl

theorem foldl_after_config (a : MockAgent) (acts : List TaskAct) :
    (acts.foldl MockAgent.after a).config = a.config := by
  induction acts generalizing a with
  | nil => rfl
  | cons act acts ih => exact (ih _).trans (after_config a act)

theorem filter_isOf_eq_nil {acts : List TaskAct} {n : Nat}
    (others : ∀ act ∈ acts, act.number? ≠ some n) : acts.filter (·.isOf n) = [] :=
  List.filter_eq_nil_iff.mpr fun act mem => mt TaskAct.isOf_iff.mp (others act mem)

theorem Logged.perform {tasks : List MockTask} (logged : s.Logged config) (acts : List TaskAct)
    (numbered : ∀ act ∈ acts, ∀ n, act.number? = some n → n < tasks.length)
    (more : s.tasks.length ≤ tasks.length)
    (told : ∀ (n : Nat) (t : MockTask), tasks[n]? = some t →
      t.Told config n t.stage (s.log.filter (·.isOf n) ++ acts.filter (·.isOf n))) :
    ({ s with tasks }.perform acts).Logged config where
  same := (foldl_after_config s.agent acts).trans logged.same
  agent := by
    simp only [MockTasks.perform, List.foldl_append]
    rw [← logged.agent]
  numbered act mem n number := by
    rcases List.mem_append.mp mem with mem | mem
    · exact (logged.numbered act mem n number).trans_le more
    · exact numbered act mem n number
  told n t found := by
    simp only [MockTasks.perform, List.filter_append]
    exact told n t found

theorem Logged.step (logged : s.Logged config) (step : Step s s') : s'.Logged config := by
  cases step with
  | idle => exact logged
  | own act own =>
    have bare : act.number? = none := by
      rcases own with rfl | ⟨c, rfl⟩ | rfl <;> rfl
    refine logged.perform [act] (by simp [bare]) le_rfl fun n t found => ?_
    have none : [act].filter (·.isOf n) = [] := filter_isOf_eq_nil (by simp [bare])
    rw [none, List.append_nil]
    exact logged.told n t found
  | begun connection r =>
    refine logged.perform _ (by simp [TaskAct.number?]) (by simp) fun n t found => ?_
    rcases begin_getElem? found with old | ⟨rfl, rfl⟩
    · have inside := (List.getElem?_eq_some_iff.mp old).1
      have none : [TaskAct.counted s.tasks.length].filter (·.isOf n) = [] :=
        filter_isOf_eq_nil (by simp [TaskAct.number?]; omega)
      rw [none, List.append_nil]
      exact logged.told n t old
    · have none : s.log.filter (·.isOf s.tasks.length) = [] :=
        filter_isOf_eq_nil fun act mem number => (logged.numbered act mem _ number).ne rfl
      simp [none, MockTask.Told, TaskAct.isOf_iff, TaskAct.number?]
  | advanced n t stage acts found advance =>
    obtain rfl := logged.same
    have inside := List.getElem?_eq_some_iff.mp found |>.1
    refine logged.perform acts (fun act mem m number => ?_) (by simp) fun m u there => ?_
    · rw [advance.number act mem m number, List.length_set]
      exact inside
    · by_cases same : n = m
      · subst same
        obtain rfl : { t with stage } = u := by simpa [inside] using there
        exact advance.told (logged.told n t found)
      · rw [List.getElem?_set_ne same] at there
        have none : acts.filter (·.isOf m) = [] :=
          filter_isOf_eq_nil fun act mem number => same (advance.number act mem m number).symm
        rw [none, List.append_nil]
        exact logged.told m u there

/-- A list to which some acts add an item is the list of what they add. -/
theorem foldl_after_items {γ : Type} (items : MockAgent → List γ) (item? : TaskAct → Option γ)
    (add : ∀ a act, items (a.after act) = items a ++ (item? act).toList) (a : MockAgent)
    (acts : List TaskAct) :
    items (acts.foldl MockAgent.after a) = items a ++ acts.filterMap item? := by
  induction acts generalizing a with
  | nil => simp
  | cons act acts ih =>
    rw [List.foldl_cons, ih, add, List.append_assoc, List.filterMap_cons]
    cases item? act <;> rfl

theorem Logged.requests (logged : s.Logged config) :
    s.agent.requests = s.log.filterMap TaskAct.noted? := by
  rw [logged.agent, foldl_after_items (·.requests) TaskAct.noted?]
  · rfl
  · intro a act
    cases act <;> simp [MockAgent.after, TaskAct.noted?, MockAgent.finish, MockAgent.hangUp]

theorem Logged.uploads (logged : s.Logged config) :
    s.agent.uploads = s.log.filterMap TaskAct.uploaded? := by
  rw [logged.agent, foldl_after_items (·.uploads) TaskAct.uploaded?]
  · rfl
  · intro a act
    cases act <;> simp [MockAgent.after, TaskAct.uploaded?, MockAgent.finish, MockAgent.hangUp]

theorem Logged.spent (logged : s.Logged config) :
    s.agent.spent = s.log.filterMap TaskAct.spent? := by
  rw [logged.agent, foldl_after_items (·.spent) TaskAct.spent?]
  · rfl
  · intro a act
    cases act <;> simp [MockAgent.after, TaskAct.spent?, MockAgent.finish, MockAgent.hangUp]

theorem Logged.mem_iff (act : TaskAct) {n : Nat} (number : act.number? = some n) :
    act ∈ s.log ↔ act ∈ s.log.filter (·.isOf n) := by
  rw [List.mem_filter, TaskAct.isOf_iff, and_iff_left number]

/-- The requests that have come to their ends are those whose end is in the log. -/
theorem Logged.ended_iff (logged : s.Logged config) {n : Nat} {t : MockTask}
    (found : s.tasks[n]? = some t) : .ended n ∈ s.log ↔ t.stage.remaining = 0 := by
  rw [Logged.mem_iff (.ended n) rfl]
  exact MockTask.ended_iff_of_told (logged.told n t found)

end MockTasks

end ClassSwap
