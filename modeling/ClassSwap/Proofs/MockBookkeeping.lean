import ClassSwap.Proofs.PromptTasks
import ClassSwap.Proofs.TaskReplies
import Mathlib.Order.Bounds.Basic

namespace ClassSwap

namespace MockTasks

variable {config : MockConfig} {s s' : MockTasks}

/-- Requests are counted in once and counted out once. -/
structure Tally (s : MockTasks) : Prop where
  inFlight : s.agent.inFlight = s.tasks.countP (·.stage.isPending)
  counted : s.log.countP TaskAct.isCounted = s.tasks.length
  ended : s.log.countP TaskAct.isEnded + s.tasks.countP (·.stage.isPending) = s.tasks.length

theorem Tally.step (tally : s.Tally) (step : Step s s') : s'.Tally := by
  cases step with
  | idle => exact tally
  | own act own =>
    obtain ⟨inFlight, counted, ended⟩ := tally
    rcases own with rfl | ⟨c, rfl⟩ | rfl <;> refine ⟨inFlight, ?_, ?_⟩ <;>
      simpa [MockTasks.perform, TaskAct.isCounted, TaskAct.isEnded]
  | begun connection r =>
    have pending : TaskStage.measuring.isPending = true := rfl
    constructor
    · simp [begin, MockTasks.perform, MockAgent.after, tally.inFlight, pending]
    · simp [begin, MockTasks.perform, TaskAct.isCounted, tally.counted]
    · simp [begin, MockTasks.perform, TaskAct.isEnded, pending, ← tally.ended, Nat.add_assoc]
  | advanced n t stage acts found advance =>
    obtain ⟨inside, rfl⟩ := List.getElem?_eq_some_iff.mp found
    obtain ⟨inFlight, counted, ended⟩ := tally
    have pending : s.tasks[n].stage.isPending = true →
        0 < s.tasks.countP (·.stage.isPending) := fun pending =>
      List.countP_pos_iff.mpr ⟨_, List.getElem_mem inside, pending⟩
    have after := List.countP_set (p := fun t : MockTask => t.stage.isPending)
      (a := { s.tasks[n] with stage }) inside
    obtain ⟨uncounted, ⟨same, open_, level⟩ | ⟨before, finished, once, level⟩⟩ := advance.tally
    · have kept : (s.tasks.set n { s.tasks[n] with stage }).countP (·.stage.isPending) =
          s.tasks.countP (·.stage.isPending) := by
        rw [after]
        dsimp only
        rw [same]
        split
        next here => exact Nat.sub_add_cancel (pending here)
        next => rfl
      constructor
      · exact level.trans (inFlight.trans kept.symm)
      · simpa [MockTasks.perform, uncounted] using counted
      · simpa [MockTasks.perform, open_, kept] using ended
    · have fewer : (s.tasks.set n { s.tasks[n] with stage }).countP (·.stage.isPending) + 1 =
          s.tasks.countP (·.stage.isPending) := by
        rw [after]
        dsimp only
        rw [if_pos before, if_neg (by simp [finished])]
        exact Nat.sub_add_cancel (pending before)
      constructor
      · show (acts.foldl MockAgent.after s.agent).inFlight =
          (s.tasks.set n { s.tasks[n] with stage }).countP (·.stage.isPending)
        rw [level, inFlight, ← fewer, Nat.add_sub_cancel]
      · simpa [MockTasks.perform, uncounted] using counted
      · simp only [MockTasks.perform, List.countP_append, once, List.length_set]
        rw [← ended, ← fewer, Nat.add_assoc, Nat.add_comm 1]

/-- The numbers of requests under way that there have been, one for each thing done. -/
def levels (config : MockConfig) (log : List TaskAct) : Set Nat :=
  Set.range fun k => ((log.take k).foldl MockAgent.after (MockAgent.start config)).inFlight

theorem level_last (logged : s.Logged config) : s.agent.inFlight ∈ levels config s.log :=
  ⟨s.log.length, by simp only [List.take_length, ← logged.agent]⟩

theorem levels_subset (log acts : List TaskAct) :
    levels config log ⊆ levels config (log ++ acts) := by
  rintro _ ⟨k, rfl⟩
  rcases Nat.le_total k log.length with inside | beyond
  · exact ⟨k, by simp only [List.take_append_of_le_length inside]⟩
  · refine ⟨log.length, ?_⟩
    simp only [List.take_append_of_le_length le_rfl, List.take_length,
      List.take_of_length_le beyond]

theorem levels_append {log acts : List TaskAct} {v : Nat}
    (level : v ∈ levels config (log ++ acts)) :
    v ∈ levels config log ∨ ∃ k, v = ((acts.take k).foldl MockAgent.after
      (log.foldl MockAgent.after (MockAgent.start config))).inFlight := by
  obtain ⟨k, rfl⟩ := level
  rcases Nat.le_total k log.length with inside | beyond
  · exact .inl ⟨k, by simp only [List.take_append_of_le_length inside]⟩
  · refine .inr ⟨k - log.length, ?_⟩
    simp only [List.take_append, List.take_of_length_le beyond, List.foldl_append]

/-- The largest count entered so far, together with those that are still to be entered, is the
largest number of requests that have been under way. -/
structure Peak (config : MockConfig) (s : MockTasks) : Prop where
  reached : s.agent.maxInFlight ∈ levels config s.log
  counts : ∀ (n : Nat) (t : MockTask), s.tasks[n]? = some t → t.count ∈ levels config s.log
  bound : ∀ v ∈ levels config s.log, v ≤ s.agent.maxInFlight ∨
    ∃ (n : Nat) (t : MockTask), s.tasks[n]? = some t ∧ t.stage = .measuring ∧ v ≤ t.count

theorem inFlight_after_le {act : TaskAct} (uncounted : act.isCounted = false) (a : MockAgent) :
    (a.after act).inFlight ≤ a.inFlight := by
  cases act with
  | counted n => cases uncounted
  | ended n => exact Nat.sub_le _ _
  | _ => exact le_rfl

theorem inFlight_foldl_le {acts : List TaskAct} (uncounted : acts.countP TaskAct.isCounted = 0)
    (a : MockAgent) : (acts.foldl MockAgent.after a).inFlight ≤ a.inFlight := by
  induction acts generalizing a with
  | nil => exact le_rfl
  | cons act acts ih =>
    have uncounted := List.countP_eq_zero.mp uncounted
    have first := inFlight_after_le (by simpa using uncounted act List.mem_cons_self) a
    have others := List.countP_eq_zero.mpr fun x mem => uncounted x (List.mem_cons_of_mem _ mem)
    exact (ih others _).trans first

/-- What is bounded already bounds what comes of acts that count nobody in. -/
theorem levels_bounded (logged : s.Logged config) {acts : List TaskAct}
    (uncounted : acts.countP TaskAct.isCounted = 0) {v : Nat}
    (level : v ∈ levels config (s.log ++ acts)) :
    v ∈ levels config s.log ∨ v ≤ s.agent.inFlight := by
  rcases levels_append level with level | ⟨k, rfl⟩
  · exact .inl level
  · right
    rw [← logged.agent]
    refine inFlight_foldl_le (List.countP_eq_zero.mpr fun act mem => ?_) _
    exact List.countP_eq_zero.mp uncounted act (List.mem_of_mem_take mem)

/-- Unless a request is counted in, it is enough that no count is lost. -/
theorem Peak.uncounted (peak : s.Peak config) (logged : s.Logged config) {tasks : List MockTask}
    {acts : List TaskAct} (uncounted : acts.countP TaskAct.isCounted = 0)
    (counts : ∀ (n : Nat) (t : MockTask), tasks[n]? = some t →
      ∃ u, s.tasks[n]? = some u ∧ t.count = u.count)
    (reached : (acts.foldl MockAgent.after s.agent).maxInFlight = s.agent.maxInFlight ∨
      ∃ (n : Nat) (t : MockTask), s.tasks[n]? = some t ∧
        (acts.foldl MockAgent.after s.agent).maxInFlight = max s.agent.maxInFlight t.count)
    (entered : ∀ (n : Nat) (t : MockTask), s.tasks[n]? = some t → t.stage = .measuring →
      t.count ≤ (acts.foldl MockAgent.after s.agent).maxInFlight ∨
        ∃ u, tasks[n]? = some u ∧ u.stage = .measuring ∧ u.count = t.count) :
    ({ s with tasks }.perform acts).Peak config := by
  have higher : s.agent.maxInFlight ≤ (acts.foldl MockAgent.after s.agent).maxInFlight := by
    rcases reached with same | ⟨n, t, -, same⟩
    · exact same.ge
    · exact same ▸ Nat.le_max_left _ _
  constructor
  · refine levels_subset _ _ ?_
    rcases reached with same | ⟨n, t, found, same⟩
    · exact same ▸ peak.reached
    · show (acts.foldl MockAgent.after s.agent).maxInFlight ∈ levels config s.log
      rw [same]
      rcases Nat.le_total s.agent.maxInFlight t.count with le | le
      · rw [Nat.max_eq_right le]
        exact peak.counts n t found
      · rw [Nat.max_eq_left le]
        exact peak.reached
  · intro n t found
    obtain ⟨u, before, same⟩ := counts n t found
    exact levels_subset _ _ (same ▸ peak.counts n u before)
  · intro v level
    have known : v ≤ s.agent.maxInFlight ∨ ∃ (n : Nat) (t : MockTask),
        s.tasks[n]? = some t ∧ t.stage = .measuring ∧ v ≤ t.count := by
      rcases levels_bounded logged uncounted level with level | low
      · exact peak.bound v level
      · rcases peak.bound _ (level_last logged) with high | ⟨n, t, found, here, high⟩
        · exact .inl (low.trans high)
        · exact .inr ⟨n, t, found, here, low.trans high⟩
    rcases known with low | ⟨n, t, found, here, low⟩
    · exact .inl (low.trans higher)
    · rcases entered n t found here with high | ⟨u, after, here, same⟩
      · exact .inl (low.trans high)
      · exact .inr ⟨n, u, after, here, same ▸ low⟩

/-- Counting a request in leads one higher at most, and the request has yet to enter that count. -/
theorem Peak.begun (peak : s.Peak config) (logged : s.Logged config) (connection : Nat)
    (r : Request) : (s.begin connection r).Peak config := by
  have logged' := logged.step (.begun connection r)
  constructor
  · exact levels_subset _ _ peak.reached
  · intro n t found
    rcases begin_getElem? found with old | ⟨-, rfl⟩
    · exact levels_subset _ _ (peak.counts n t old)
    · exact level_last logged'
  · intro v level
    have known : v ∈ levels config s.log ∨ v ≤ s.agent.inFlight + 1 := by
      rcases levels_append level with level | ⟨k, rfl⟩
      · exact .inl level
      · right
        rw [← logged.agent]
        cases k with
        | zero => exact Nat.le_succ _
        | succ k => rw [List.take_of_length_le (by simp)]; exact le_rfl
    have new : (s.begin connection r).tasks[s.tasks.length]? =
        some ⟨connection, r, s.agent.inFlight + 1, .measuring⟩ := List.getElem?_concat_length ..
    rcases known with level | low
    · rcases peak.bound v level with low | ⟨n, t, found, here, low⟩
      · exact .inl low
      · have inside := (List.getElem?_eq_some_iff.mp found).1
        exact .inr ⟨n, t, (List.getElem?_append_left inside).trans found, here, low⟩
    · exact .inr ⟨_, _, new, rfl, low⟩

theorem Peak.step (peak : s.Peak config) (logged : s.Logged config) (step : Step s s') :
    s'.Peak config := by
  cases step with
  | idle => exact peak
  | own act own =>
    refine peak.uncounted logged ?_ (fun n t found => ⟨t, found, rfl⟩) (.inl ?_)
      fun n t found here => .inr ⟨t, found, here, rfl⟩
    · rcases own with rfl | ⟨c, rfl⟩ | rfl <;> rfl
    · rcases own with rfl | ⟨c, rfl⟩ | rfl <;> rfl
  | begun connection r => exact peak.begun logged connection r
  | advanced n t stage acts found advance =>
    obtain ⟨inside, rfl⟩ := List.getElem?_eq_some_iff.mp found
    refine peak.uncounted logged advance.tally.1 (fun m u there => ?_) ?_ fun m u there here => ?_
    · by_cases same : n = m
      · subst same
        obtain rfl : { s.tasks[n] with stage } = u := by simpa [inside] using there
        exact ⟨_, found, rfl⟩
      · exact ⟨u, (List.getElem?_set_ne same).symm.trans there, rfl⟩
    · rw [advance.peak]
      split
      · exact .inr ⟨n, _, found, rfl⟩
      · exact .inl rfl
    · rw [advance.peak]
      by_cases same : n = m
      · subst same
        obtain rfl := Option.some.inj (found.symm.trans there)
        rw [if_pos here]
        exact .inl (Nat.le_max_right _ _)
      · exact .inr ⟨u, (List.getElem?_set_ne same).trans there, here, rfl⟩

/-- How the requests of an action have been decided on, in the order in which they came to it. -/
def verdicts (action : Action) (log : List TaskAct) : List Bool :=
  log.filterMap (TaskAct.verdict? action)

theorem mem_verdicts {action : Action} {log : List TaskAct} :
    true ∈ verdicts action log ↔ action ∈ log.filterMap TaskAct.spent? := by
  have same (act : TaskAct) :
      act.verdict? action = some true ↔ act.spent? = some action := by
    cases act <;> simp [TaskAct.verdict?, TaskAct.spent?]
  simp only [verdicts, List.mem_filterMap, same]

/-- Of an action that is to be dropped the first request is, and no other request ever is. -/
def Screened (config : MockConfig) (s : MockTasks) : Prop :=
  ∀ action i v, (verdicts action s.log)[i]? = some v →
    v = (decide (i = 0) && decide (action ∈ config.dropped))

/-- A request is dropped if it is the first of an action that is to be dropped. -/
theorem drops_eq (screened : s.Screened config) (logged : s.Logged config) (action : Action) :
    s.agent.drops action =
      (decide ((verdicts action s.log).length = 0) && decide (action ∈ config.dropped)) := by
  have spent : action ∈ s.agent.spent ↔ true ∈ verdicts action s.log := by
    rw [logged.spent, mem_verdicts]
  rw [MockAgent.drops, logged.same, Bool.eq_iff_iff]
  simp only [Bool.and_eq_true, Bool.not_eq_true', List.contains_eq_mem, decide_eq_true_eq,
    decide_eq_false_iff_not, spent]
  constructor
  · rintro ⟨there, fresh⟩
    refine ⟨?_, there⟩
    by_contra some
    have first := screened action 0 _ (List.getElem?_eq_getElem (Nat.pos_of_ne_zero some))
    simp only [there, decide_true, Bool.and_self] at first
    exact fresh (first ▸ List.getElem_mem _)
  · rintro ⟨none, there⟩
    refine ⟨there, ?_⟩
    rw [List.length_eq_zero_iff.mp none]
    exact List.not_mem_nil

theorem Screened.append (screened : s.Screened config) {tasks : List MockTask}
    {acts : List TaskAct}
    (fits : ∀ action, acts.filterMap (TaskAct.verdict? action) = [] ∨
      acts.filterMap (TaskAct.verdict? action) = [s.agent.drops action])
    (logged : s.Logged config) : ({ s with tasks }.perform acts).Screened config := by
  intro action i v there
  simp only [MockTasks.perform, verdicts, List.filterMap_append] at there
  rcases fits action with none | one
  · rw [none, List.append_nil] at there
    exact screened action i v there
  · rw [one] at there
    rcases Nat.lt_or_ge i (verdicts action s.log).length with old | new
    · exact screened action i v ((List.getElem?_append_left old).symm.trans there)
    · obtain rfl : i = (verdicts action s.log).length := by
        have inside := (List.getElem?_eq_some_iff.mp there).1
        rw [List.length_append, List.length_singleton] at inside
        exact Nat.le_antisymm (Nat.le_of_lt_succ inside) new
      have last : (verdicts action s.log ++
        [s.agent.drops action])[(verdicts action s.log).length]? = _ :=
          List.getElem?_concat_length ..
      rw [← drops_eq screened logged]
      exact Option.some.inj (there.symm.trans last)

theorem Screened.step (screened : s.Screened config) (logged : s.Logged config)
    (step : Step s s') : s'.Screened config := by
  cases step with
  | idle => exact screened
  | own act own =>
    refine screened.append (fun action => .inl ?_) logged
    rcases own with rfl | ⟨c, rfl⟩ | rfl <;> rfl
  | begun connection r => exact screened.append (fun action => .inl rfl) logged
  | advanced n t stage acts found advance =>
    exact screened.append advance.verdict logged

/-- What an agent keeps of a request: the bytes that its body decodes to, unless it refuses them. -/
structure Uploads (config : MockConfig) (r : Request) (upload : MockUpload) : Prop where
  accepting : config.rejection = none
  action : upload.action = r.command.action
  body : ∃ body, (r.command = .uploadClass upload.name body ∨
    r.command = .uploadArchive upload.name body) ∧ decodeBody body = .ok upload.bytes

theorem upload?_eq_some_iff {r : Request} {upload : MockUpload} :
    config.upload? r = some upload ↔ Uploads config r upload := by
  have brings (name body : String) : (if config.rejection.isSome = true then none
        else (decodeBody body).toOption.map fun bytes =>
          (⟨r.command.action, name, bytes⟩ : MockUpload)) = some upload ↔
      config.rejection = none ∧ upload.action = r.command.action ∧ upload.name = name ∧
        decodeBody body = .ok upload.bytes := by
    obtain ⟨action, name', bytes⟩ := upload
    cases config.rejection <;> cases decodeBody body <;>
      simp [Except.toOption, eq_comm, and_comm]
  unfold MockConfig.upload?
  split
  next name body command =>
    rw [brings]
    constructor
    · rintro ⟨accepting, action, rfl, decoded⟩
      exact ⟨accepting, action, body, .inl command, decoded⟩
    · rintro ⟨accepting, action, body', brought, decoded⟩
      simp only [command, Command.uploadClass.injEq, reduceCtorEq, or_false] at brought
      exact ⟨accepting, action, brought.1.symm, brought.2 ▸ decoded⟩
  next name body command =>
    rw [brings]
    constructor
    · rintro ⟨accepting, action, rfl, decoded⟩
      exact ⟨accepting, action, body, .inr command, decoded⟩
    · rintro ⟨accepting, action, body', brought, decoded⟩
      simp only [command, Command.uploadArchive.injEq, reduceCtorEq, false_or] at brought
      exact ⟨accepting, action, brought.1.symm, brought.2 ▸ decoded⟩
  next noClass noArchive =>
    constructor
    · intro none_
      cases none_
    · rintro ⟨-, -, body, brought, -⟩
      rcases brought with brought | brought
      · exact absurd brought (noClass _ _)
      · exact absurd brought (noArchive _ _)

theorem Logged.uploaded_iff (logged : s.Logged config) {n : Nat} {t : MockTask}
    (found : s.tasks[n]? = some t) (ended : .ended n ∈ s.log) (upload : MockUpload) :
    .uploaded n upload ∈ s.log ↔
      .dropped n t.action ∉ s.log ∧ Uploads config t.request upload := by
  have told := logged.told n t found
  rw [Logged.mem_iff (.uploaded n upload) rfl, Logged.mem_iff (.dropped n t.action) rfl,
    ← upload?_eq_some_iff]
  rcases MockTask.script_of_told told ((logged.ended_iff found).mp ended) with
    done | ⟨replies, only, done⟩
  · rw [done]
    simp [MockTask.script, MockTask.entry]
  · have uploaded : TaskAct.uploaded n upload ∉ replies := fun mem => by simpa using only _ mem
    have dropped : TaskAct.dropped n t.action ∉ replies := fun mem => by simpa using only _ mem
    rw [done]
    simp [MockTask.script, MockTask.entry, MockTask.uploads, MockTask.holds, uploaded, dropped]

/-- What the agent keeps of its requests. -/
structure Bookkept (config : MockConfig) (s : MockTasks) : Prop where
  /-- A request that can be read is taken up, under a number of its own. -/
  begins : ∀ connection payload r, s.listens connection = true →
    Frame.decode Request.read payload = .ok r → ∃ t : MockTask, t.request = r ∧
      t.connection = connection ∧ (s.step (.received connection payload)).tasks = s.tasks ++ [t]
  /-- It is recorded once and ended once, and what is written of its reply comes after its end. -/
  course : ∀ (n : Nat) (t : MockTask), s.tasks[n]? = some t →
    t.Course config n (s.log.filter (·.isOf n))
  requests : s.agent.requests = s.log.filterMap TaskAct.noted?
  /-- Until its last step it can go on, unless its reply has to wait; no step puts the last one
  off. -/
  goesOn : ∀ (n : Nat) (t : MockTask), s.tasks[n]? = some t → t.stage ≠ .finished →
    (t.stage = .replying → s.MayReply t) → ∃ stage,
      (s.step (t.turn n)).tasks[n]? = some { t with stage } ∧
      ({ t with stage } : MockTask).left config < t.left config ∧
      ∀ m, .gaveUp m ∈ (s.step (t.turn n)).log → .gaveUp m ∈ s.log
  lasts : ∀ (n : Nat) (t : MockTask) e, s.tasks[n]? = some t → ∃ stage,
    (s.step e).tasks[n]? = some { t with stage } ∧
      ({ t with stage } : MockTask).left config ≤ t.left config
  /-- The requests under way are those counted in and not yet ended. -/
  inFlight : s.agent.inFlight + s.log.countP TaskAct.isEnded = s.log.countP TaskAct.isCounted
  idle : (∀ n < s.tasks.length, .ended n ∈ s.log) → s.agent.inFlight = 0
  /-- The largest number of them is known, once every request has entered its count. -/
  peak : (∀ t ∈ s.tasks, t.stage ≠ .measuring) →
    IsGreatest (levels config s.log) s.agent.maxInFlight
  rising : s.agent.maxInFlight ∈ levels config s.log ∧ ∀ v ∈ levels config s.log,
    v ≤ s.agent.maxInFlight ∨ ∃ t ∈ s.tasks, t.stage = .measuring ∧ v ≤ t.count
  /-- Of an action that is to be dropped the first request to come to it is, and no other. -/
  screened : ∀ action i v, (verdicts action s.log)[i]? = some v →
    v = (decide (i = 0) && decide (action ∈ config.dropped))
  /-- The others are handled to the last byte of the reply, unless it cannot be written. -/
  replied : ∀ (n : Nat) (t : MockTask), s.tasks[n]? = some t → t.stage = .finished →
    .dropped n t.action ∉ s.log → .gaveUp n ∉ s.log →
    ∃ chunks, t.frame? config = some chunks.flatten ∧
      s.log.filter (·.isOf n) = t.script config n false ++ t.writes n chunks
  /-- They can be handled so far as long as their connection is open, and nobody has to give up. -/
  completes : ∀ (n : Nat) (t : MockTask) frame, s.tasks[n]? = some t → .kept n t.action ∈ s.log →
    .gaveUp n ∉ s.log → s.agent.live.contains t.connection = true →
    Frame.ofPayload (config.payload t.request) = .ok frame →
    ∃ more chunks, (∀ m, .gaveUp m ∈ (s.run more).log → .gaveUp m ∈ s.log) ∧
      chunks.flatten = frame ∧
      (s.run more).log.filter (·.isOf n) = t.script config n false ++ t.writes n chunks
  uploads : s.agent.uploads = s.log.filterMap TaskAct.uploaded?
  /-- A request leaves an upload if it is not dropped and brings bytes that are not refused. -/
  uploaded : ∀ (n : Nat) (t : MockTask) upload, s.tasks[n]? = some t → .ended n ∈ s.log →
    (.uploaded n upload ∈ s.log ↔ .dropped n t.action ∉ s.log ∧ Uploads config t.request upload)

theorem bookkept (config : MockConfig) (events : List TaskEvent) :
    Bookkept config ((start config).run events) := by
  have first : (start config).Logged config ∧ (start config).Tally ∧ (start config).Peak config ∧
      (start config).Screened config := by
    refine ⟨⟨rfl, rfl, nofun, nofun⟩, ⟨rfl, rfl, rfl⟩, ⟨⟨0, rfl⟩, nofun, ?_⟩, nofun⟩
    rintro v ⟨k, rfl⟩
    exact .inl (by simp [start, MockAgent.start])
  obtain ⟨logged, tally, peak, screened⟩ := run_induction
    (P := fun s => s.Logged config ∧ s.Tally ∧ s.Peak config ∧ s.Screened config) first
    (fun s s' ⟨logged, tally, peak, screened⟩ step => ⟨logged.step step, tally.step step,
      peak.step logged step, screened.step logged step⟩) events
  generalize (start config).run events = s at logged tally peak screened
  have rising : ∀ v ∈ levels config s.log,
      v ≤ s.agent.maxInFlight ∨ ∃ t ∈ s.tasks, t.stage = .measuring ∧ v ≤ t.count := by
    intro v level
    rcases peak.bound v level with low | ⟨n, t, found, here, low⟩
    · exact .inl low
    · exact .inr ⟨t, List.mem_of_getElem? found, here, low⟩
  constructor
  case begins =>
    intro connection payload r listens decoded
    refine ⟨⟨connection, r, s.agent.inFlight + 1, .measuring⟩, rfl, rfl, ?_⟩
    rw [step, if_pos listens, received, decoded]
    rfl
  case course => exact fun n t found => MockTask.course_of_told (logged.told n t found)
  case requests => exact logged.requests
  case goesOn =>
    intro n t found unfinished may
    have same := logged.same
    have inside := (List.getElem?_eq_some_iff.mp found).1
    obtain ⟨stage, acts, advance, faithful, stepped⟩ := step_turn found unfinished may
    rw [stepped]
    refine ⟨stage, List.getElem?_set_self inside, same ▸ advance.left_lt, fun m mem => ?_⟩
    exact (List.mem_append.mp mem).resolve_right (faithful m)
  case lasts => exact fun n t e found => logged.same ▸ step_keeps found (step_cases s e)
  case inFlight =>
    rw [tally.inFlight, tally.counted, ← tally.ended, Nat.add_comm]
  case idle =>
    intro ended
    rw [tally.inFlight, List.countP_eq_zero]
    intro t mem
    obtain ⟨n, inside, rfl⟩ := List.mem_iff_getElem.mp mem
    have finished := (logged.ended_iff (List.getElem?_eq_getElem inside)).mp (ended n inside)
    simp [TaskStage.isPending, finished]
  case peak =>
    intro entered
    refine ⟨peak.reached, fun v level => ?_⟩
    rcases rising v level with low | ⟨t, mem, here, -⟩
    · exact low
    · exact absurd here (entered t mem)
  case rising => exact ⟨peak.reached, rising⟩
  case screened => exact screened
  case replied =>
    intro n t found here kept stays
    have told := logged.told n t found
    rw [here] at told
    rcases told with done | ⟨chunks, fits, done⟩ | ⟨chunks, -, done⟩
    · refine absurd ((Logged.mem_iff (.dropped n t.action) rfl).mpr ?_) kept
      rw [done]
      simp [MockTask.script]
    · exact ⟨chunks, fits, done⟩
    · refine absurd ((Logged.mem_iff (.gaveUp n) rfl).mpr ?_) stays
      rw [done]
      simp
  case completes =>
    exact fun n t frame found kept stays live fits =>
      logged.exists_replied found kept stays live fits
  case uploads => exact logged.uploads
  case uploaded => exact fun n t upload found ended => logged.uploaded_iff found ended upload

/-- However the steps of requests come in between each other, the agent keeps its books; so does the
one that takes each request through all of its steps at once. -/
theorem run_bookkept (config : MockConfig) :
    (∀ events, Bookkept config ((start config).run events)) ∧
    ∀ events : List MockEvent, ∃ s, Bookkept config s ∧
      s.agent = events.foldl (fun a e => (a.step e).1) (MockAgent.start config) := by
  refine ⟨bookkept config, fun events => ?_⟩
  obtain ⟨more, prompt⟩ := exists_run_prompt config events
  exact ⟨_, bookkept config more, prompt⟩

def busy : MockConfig :=
  { bytecode := [("p.A", [202])], delays := [(.fetchBytes, ⟨5⟩)], dropped := [.initClass] }

def asks (connection id : Nat) (command : Command) : TaskEvent :=
  .received connection (Frame.payloadOf (Request.json ⟨⟨id⟩, "h", 1, command⟩))

/-- The reply to a fetch is held back, an initialization is cut off, and an upload and a listing are
answered meanwhile. -/
def rush : List TaskEvent :=
  [.accepted, .accepted, asks 0 1 (.fetchBytes "p.A"), .goesOn 0, .goesOn 0, .goesOn 0, .goesOn 0,
    asks 1 2 (.initClass "p.A"), .goesOn 1, asks 0 3 (.uploadClass "p.A" "AQ=="), .goesOn 2,
    .goesOn 1, .goesOn 1, .goesOn 1, .goesOn 1, .goesOn 2, .goesOn 2, .goesOn 2, .goesOn 2,
    .written 2 0, .written 2 1000, asks 0 4 .listClasses, .goesOn 3, .goesOn 3, .goesOn 3,
    .goesOn 3, .written 3 1000]

def fetch : MockTask := ⟨0, ⟨⟨1⟩, "h", 1, .fetchBytes "p.A"⟩, 1, .waiting⟩

theorem run_bookkept_sample :
    let s := (start busy).run rush
    s.agent.requests.map (·.command) =
        [.fetchBytes "p.A", .initClass "p.A", .uploadClass "p.A" "AQ==", .listClasses] ∧
      s.agent.inFlight = 1 ∧ IsGreatest (levels busy s.log) 3 ∧
      s.agent.uploads = [⟨.uploadClass, "p.A", [1]⟩] ∧ .dropped 1 .initClass ∈ s.log ∧
      s.tasks[0]? = some fetch ∧ ∃ more chunks, fetch.frame? busy = some chunks.flatten ∧
        (s.run more).log.filter (·.isOf 0) =
          fetch.script busy 0 false ++ fetch.writes 0 chunks := by
  intro s
  have books : Bookkept busy s := (run_bookkept busy).1 rush
  have counts : s.log.countP TaskAct.isEnded = 3 ∧ s.log.countP TaskAct.isCounted = 4 := by
    decide +kernel
  have entered : ∀ t ∈ s.tasks, t.stage ≠ .measuring := by decide +kernel
  have most : s.agent.maxInFlight = 3 := by decide +kernel
  have found : s.tasks[0]? = some fetch := by decide +kernel
  obtain ⟨frame, fits⟩ : ∃ frame, Frame.ofPayload (busy.payload fetch.request) = .ok frame :=
    ⟨_, if_neg (by decide +kernel)⟩
  obtain ⟨more, chunks, -, whole, done⟩ := books.completes 0 fetch frame found
    (by decide +kernel) (by decide +kernel) (by decide +kernel) fits
  refine ⟨by decide +kernel, ?_, most ▸ books.peak entered, by decide +kernel, by decide +kernel,
    found, more, chunks, ?_, done⟩
  · have level := books.inFlight
    omega
  · rw [MockTask.frame?, fits, whole]
    rfl

end MockTasks

end ClassSwap
