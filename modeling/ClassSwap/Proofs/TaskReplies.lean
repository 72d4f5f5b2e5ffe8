import ClassSwap.Proofs.TaskLog
import Mathlib.Algebra.Ring.Nat

namespace ClassSwap

/-- A bound on the steps that are left to the last byte of a reply of so many bytes. -/
def TaskStage.left (bytes : Nat) : TaskStage → Nat
  | finished => 0
  | leaving => 1
  | writing rest => rest.length + 1
  | replying => bytes + 2
  | halting => bytes + 3
  | stage => bytes + 3 + stage.remaining

namespace MockTask

variable {a : MockAgent} {n : Nat} {t : MockTask} {stage : TaskStage} {acts : List TaskAct}

def left (config : MockConfig) (t : MockTask) : Nat :=
  t.stage.left ((t.frame? config).getD []).length

theorem left_afterEnd_le (bytes : Nat) (t : MockTask) : t.afterEnd.left bytes ≤ bytes + 3 := by
  unfold afterEnd
  split <;> simp [TaskStage.left]

theorem left_afterCheck_le (bytes : Nat) (config : MockConfig) (t : MockTask) :
    (t.afterCheck config).left bytes ≤ bytes + 6 := by
  unfold afterCheck
  split <;> simp [TaskStage.left, TaskStage.remaining]

/-- Every step of a request brings it nearer to its last one. -/
theorem Advance.left_lt (advance : t.Advance a n stage acts) :
    ({ t with stage } : MockTask).left a.config < t.left a.config := by
  show stage.left ((t.frame? a.config).getD []).length < _
  rw [MockTask.left]
  cases advance with
  | measured here | noted here | dropped here | cut here | left here | uploaded _ here
  | held _ here | abandoned here | halted here =>
    simp [here, TaskStage.left, TaskStage.remaining]
  | kept here =>
    refine (left_afterCheck_le _ a.config t).trans_lt ?_
    simp [here, TaskStage.left, TaskStage.remaining]
  | prompt here | due here =>
    refine (left_afterEnd_le _ t).trans_lt ?_
    simp [here, TaskStage.left, TaskStage.remaining]
  | wrote chunk rest turn some_ =>
    split
    next =>
      rcases turn with ⟨here, -⟩ | here <;> simp [here, TaskStage.left]
    next more =>
      have chunk_pos : 0 < chunk.length := List.length_pos_iff.mpr (mt some_ more)
      rcases turn with ⟨here, fits⟩ | here
      · simp only [here, fits, Option.getD_some, TaskStage.left, List.length_append]
        omega
      · simp only [here, TaskStage.left, List.length_append]
        omega
  | failed turn =>
    rcases turn with here | ⟨rest, here⟩ <;> simp [here, TaskStage.left]

/-- The event that brings a request on, short of its giving up. -/
def turn (n : Nat) (t : MockTask) : TaskEvent :=
  match t.stage with
  | .waiting => .due n
  | .replying | .writing _ => .written n 0
  | _ => .goesOn n

/-- Only a request whose reply is held back or could be written gives up. -/
theorem Advance.gaveUp (advance : t.Advance a n stage acts) {m : Nat} (mem : .gaveUp m ∈ acts) :
    t.stage = .waiting ∨ t.stage = .replying ∨ t.isWriting = true := by
  cases advance with
  | abandoned here => exact .inl here
  | failed turn =>
    rcases turn with here | ⟨rest, here⟩
    · exact .inr (.inl here)
    · exact .inr (.inr (by rw [isWriting, here]))
  | _ => simp at mem

/-- Nobody but a request that is cut off closes a connection. -/
theorem Advance.live (advance : t.Advance a n stage acts) (other : t.stage ≠ .leaving) :
    (acts.foldl MockAgent.after a).live = a.live := by
  cases advance with
  | left here => exact absurd here other
  | _ => rfl

end MockTask

namespace MockTasks

variable {config : MockConfig} {s s' : MockTasks} {n : Nat} {t : MockTask}

/-- The next step of a request whose turn is neither to wait nor to write. -/
theorem exists_next (n : Nat) (drops : Bool) (unfinished : t.stage ≠ .finished)
    (moving : t.stage ≠ .waiting) (silent : t.stage ≠ .replying ∧ t.isWriting = false) :
    ∃ stage acts, t.next? config n drops = some (stage, acts) := by
  cases here : t.stage with
  | waiting => exact absurd here moving
  | finished => exact absurd here unfinished
  | replying => exact absurd here silent.1
  | writing rest => simp [MockTask.isWriting, here] at silent
  | measuring | noting | dropping | leaving | uploading _ | halting =>
    exact ⟨_, _, by rw [MockTask.next?, here]⟩
  | checking => cases drops <;> exact ⟨_, _, by rw [MockTask.next?, here]; rfl⟩
  | answering =>
    cases slow : t.delay? config with
    | some delay => exact ⟨_, _, by rw [MockTask.next?, here, slow]⟩
    | none => exact ⟨_, _, by rw [MockTask.next?, here, slow]⟩

/-- What has to be there before the first byte of a reply: it fits into a frame, and the connection
is free. -/
structure MayReply (s : MockTasks) (t : MockTask) : Prop where
  fits : ∃ frame, Frame.ofPayload (s.agent.config.payload t.request) = .ok frame
  free : s.isFree t.connection = true

theorem move_eq_perform (found : s.tasks[n]? = some t)
    {f : MockTask → Option (TaskStage × List TaskAct)} {stage : TaskStage} {acts : List TaskAct}
    (next : f t = some (stage, acts)) :
    s.move n f = { s with tasks := s.tasks.set n { t with stage } }.perform acts := by
  rw [move, found]
  simp only [next]

theorem turn_of_silent (moving : t.stage ≠ .waiting)
    (silent : t.stage ≠ .replying ∧ t.isWriting = false) : t.turn n = .goesOn n := by
  unfold MockTask.turn
  split
  next here => exact absurd here moving
  next here => exact absurd here silent.1
  next here => simp [MockTask.isWriting, here] at silent
  next => rfl

/-- There is something to be written of a reply that is under way or can be begun. -/
theorem exists_unwritten (n : Nat) (writes : ¬ (t.stage ≠ .replying ∧ t.isWriting = false))
    (may : t.stage = .replying → s.MayReply t) :
    ∃ rest, t.unwritten? s.agent.config (s.isFree t.connection) = some rest ∧
      t.turn n = .written n 0 := by
  cases here : t.stage with
  | replying =>
    obtain ⟨⟨frame, fits⟩, free⟩ := may here
    refine ⟨frame, ?_, by rw [MockTask.turn, here]⟩
    simp [MockTask.unwritten?, here, free, MockTask.frame?, fits, Except.toOption]
  | writing rest =>
    exact ⟨rest, by rw [MockTask.unwritten?, here], by rw [MockTask.turn, here]⟩
  | _ => simp [MockTask.isWriting, here] at writes

/-- A request takes its turn, unless its reply cannot be begun. -/
theorem step_turn (found : s.tasks[n]? = some t) (unfinished : t.stage ≠ .finished)
    (may : t.stage = .replying → s.MayReply t) :
    ∃ stage acts, t.Advance s.agent n stage acts ∧ (∀ m, .gaveUp m ∉ acts) ∧
      s.step (t.turn n) = { s with tasks := s.tasks.set n { t with stage } }.perform acts := by
  by_cases waits : t.stage = .waiting
  · have next : t.due? n = some (t.afterEnd, [.ended n]) := by rw [MockTask.due?, waits]
    refine ⟨_, _, MockTask.advance_of_due next, by simp, ?_⟩
    rw [MockTask.turn, waits]
    exact move_eq_perform found (f := fun t => t.due? n) next
  by_cases silent : t.stage ≠ .replying ∧ t.isWriting = false
  · obtain ⟨stage, acts, next⟩ := exists_next n (s.agent.drops t.action) unfinished waits silent
    have advance := MockTask.advance_of_next next
    refine ⟨stage, acts, advance, fun m mem => ?_, ?_⟩
    · rcases advance.gaveUp mem with here | here | here
      · exact waits here
      · exact silent.1 here
      · exact absurd here (by simp [silent.2])
    · rw [turn_of_silent waits silent]
      exact move_eq_perform found
        (f := fun t => t.next? s.agent.config n (s.agent.drops t.action)) next
  · obtain ⟨rest, next, turn⟩ := exists_unwritten n silent may
    have written : t.write? s.agent.config n (s.isFree t.connection) 0 =
        some (if rest.length ≤ 1 then .finished else .writing (rest.drop 1),
          [.wrote n t.connection (rest.take 1)]) := by
      rw [MockTask.write?, next]
      rfl
    refine ⟨_, _, MockTask.advance_of_write written, by simp, ?_⟩
    rw [turn]
    exact move_eq_perform found
      (f := fun t => t.write? s.agent.config n (s.isFree t.connection) 0) written

/-- Steps only bring requests nearer to their last ones. -/
theorem step_keeps (found : s.tasks[n]? = some t) (step : Step s s') :
    ∃ stage, s'.tasks[n]? = some { t with stage } ∧
      ({ t with stage } : MockTask).left s.agent.config ≤ t.left s.agent.config := by
  cases step with
  | idle | own => exact ⟨t.stage, found, le_rfl⟩
  | begun connection r =>
    have inside := (List.getElem?_eq_some_iff.mp found).1
    exact ⟨t.stage, (List.getElem?_append_left inside).trans found, le_rfl⟩
  | advanced m u stage acts there advance =>
    have inside := (List.getElem?_eq_some_iff.mp there).1
    by_cases same : m = n
    · subst same
      obtain rfl := Option.some.inj (there.symm.trans found)
      exact ⟨stage, List.getElem?_set_self inside, advance.left_lt.le⟩
    · exact ⟨t.stage, (List.getElem?_set_ne same).trans found, le_rfl⟩

/-- How many steps there are at most to the last ones of all requests. -/
def work (s : MockTasks) : Nat := (s.tasks.map (·.left s.agent.config)).sum

theorem sum_set_lt {f : MockTask → Nat} {tasks : List MockTask} {u : MockTask}
    (found : tasks[n]? = some t) (less : f u < f t) :
    ((tasks.set n u).map f).sum < (tasks.map f).sum := by
  induction tasks generalizing n with
  | nil => cases found
  | cons v tasks ih =>
    cases n with
    | zero =>
      cases found
      simpa using less
    | succ n => simpa using ih found

theorem Logged.run (logged : s.Logged config) (events : List TaskEvent) :
    (s.run events).Logged config := by
  induction events generalizing s with
  | nil => exact logged
  | cons e events ih => exact ih (logged.step (step_cases s e))

/-- A request that is not dropped is not cut off. -/
theorem Logged.stage_of_kept (logged : s.Logged config) (found : s.tasks[n]? = some t)
    (kept : .kept n t.action ∈ s.log) : t.stage ≠ .leaving := by
  intro here
  have told := logged.told n t found
  rw [Logged.mem_iff (.kept n t.action) rfl] at kept
  rw [here] at told
  rw [told] at kept
  simp [MockTask.script, MockTask.entry] at kept

/-- Of the requests on an open connection one can go on as long as one of them is not finished: the
one itself, or the one that keeps it from writing. -/
theorem exists_ready (found : s.tasks[n]? = some t) (unfinished : t.stage ≠ .finished)
    (uncut : t.stage ≠ .leaving) (live : s.agent.live.contains t.connection = true)
    (fits : ∃ frame, Frame.ofPayload (s.agent.config.payload t.request) = .ok frame) :
    ∃ (m : Nat) (u : MockTask), s.tasks[m]? = some u ∧ u.stage ≠ .finished ∧ u.stage ≠ .leaving ∧
      (u.stage = .replying → s.MayReply u) := by
  cases free : s.isFree t.connection with
  | true => exact ⟨n, t, found, unfinished, uncut, fun _ => ⟨fits, free⟩⟩
  | false =>
    simp only [isFree, live, Bool.true_and, Bool.not_eq_false', List.any_eq_true,
      Bool.and_eq_true] at free
    obtain ⟨u, mem, -, writes⟩ := free
    obtain ⟨m, there⟩ := List.mem_iff_getElem?.mp mem
    refine ⟨m, u, there, ?_, ?_, ?_⟩ <;> intro here <;> simp [MockTask.isWriting, here] at writes

/-- A reply that has been kept can be written to its last byte, and nobody has to give up for it. -/
theorem Logged.exists_replied (logged : s.Logged config) (found : s.tasks[n]? = some t)
    (kept : .kept n t.action ∈ s.log) (stays : .gaveUp n ∉ s.log)
    (live : s.agent.live.contains t.connection = true) {frame : Bytes}
    (fits : Frame.ofPayload (config.payload t.request) = .ok frame) :
    ∃ more chunks, (∀ m, .gaveUp m ∈ (s.run more).log → .gaveUp m ∈ s.log) ∧
      chunks.flatten = frame ∧
      (s.run more).log.filter (·.isOf n) = t.script config n false ++ t.writes n chunks := by
  induction size : s.work using Nat.strong_induction_on generalizing s t with
  | h size ih =>
    subst size
    by_cases unfinished : t.stage = .finished
    · have told := logged.told n t found
      rw [unfinished] at told
      rw [Logged.mem_iff (.kept n t.action) rfl] at kept
      rw [Logged.mem_iff (.gaveUp n) rfl] at stays
      rcases told with done | ⟨chunks, whole, done⟩ | ⟨chunks, -, done⟩
      · simp [done, MockTask.script, MockTask.entry] at kept
      · refine ⟨[], chunks, fun _ mem => mem, ?_, done⟩
        simpa [MockTask.frame?, fits, Except.toOption] using whole.symm
      · simp [done] at stays
    · obtain rfl := logged.same
      obtain ⟨m, u, there, open_, uncut, may⟩ :=
        exists_ready found unfinished (logged.stage_of_kept found kept) live ⟨frame, fits⟩
      obtain ⟨stage, acts, advance, faithful, stepped⟩ := step_turn there open_ may
      have logged' := logged.step (step_cases s (u.turn m))
      obtain ⟨stage', found', -⟩ := step_keeps found (step_cases s (u.turn m))
      have config_ : (s.step (u.turn m)).agent.config = s.agent.config := logged'.same
      have log : (s.step (u.turn m)).log = s.log ++ acts := by rw [stepped]; rfl
      have less : (s.step (u.turn m)).work < s.work := by
        rw [work, config_, stepped]
        exact sum_set_lt there advance.left_lt
      have live' : (s.step (u.turn m)).agent.live = s.agent.live := by
        rw [stepped]
        exact advance.live uncut
      have given {k : Nat} (mem : .gaveUp k ∈ (s.step (u.turn m)).log) : .gaveUp k ∈ s.log := by
        rw [log] at mem
        exact (List.mem_append.mp mem).resolve_right (faithful k)
      obtain ⟨more, chunks, others, whole, done⟩ := ih _ less logged' found'
        (log ▸ List.mem_append_left _ kept) (fun mem => stays (given mem)) (live' ▸ live) fits rfl
      exact ⟨u.turn m :: more, chunks, fun k mem => given (others k mem), whole, done⟩

end MockTasks

end ClassSwap
