import ClassSwap.Proofs.TaskMoves

namespace ClassSwap

namespace TaskAct

def number? : TaskAct → Option Nat
  | counted n | measured n _ | noted n _ | dropped n _ | kept n _ | uploaded n _ | ended n
  | wrote n _ _ | gaveUp n => some n
  | held reply _ => some reply.number
  | connected | halted | closed _ => none

def isOf (n : Nat) (act : TaskAct) : Bool := act.number? == some n

def noted? : TaskAct → Option Request
  | noted _ r => some r
  | _ => none

def uploaded? : TaskAct → Option MockUpload
  | uploaded _ upload => some upload
  | _ => none

def spent? : TaskAct → Option Action
  | dropped _ action => some action
  | _ => none

def isCounted : TaskAct → Bool
  | counted _ => true
  | _ => false

def isEnded : TaskAct → Bool
  | ended _ => true
  | _ => false

/-- Whether a request of an action is dropped, where that is decided. -/
def verdict? (action : Action) : TaskAct → Option Bool
  | dropped _ other => if other = action then some true else none
  | kept _ other => if other = action then some false else none
  | _ => none

end TaskAct

/-- How many steps there are at most to the end of a request. -/
def TaskStage.remaining : TaskStage → Nat
  | measuring => 6
  | noting => 5
  | checking => 4
  | uploading _ => 3
  | answering => 2
  | dropping | waiting => 1
  | leaving | halting | replying | writing _ | finished => 0

def TaskStage.isPending (stage : TaskStage) : Bool := 0 < stage.remaining

namespace MockTask

variable (config : MockConfig) (n : Nat) (t : MockTask)

def entry : List TaskAct := [.counted n, .measured n t.count, .noted n t.request]

def uploads : List TaskAct := (config.upload? t.request).toList.map (.uploaded n)

def holds : List TaskAct := (t.delay? config).toList.map (.held (t.reply config n))

/-- All that is done for a request up to its end. -/
def script (drop : Bool) : List TaskAct :=
  if drop then t.entry n ++ [.dropped n t.action] ++ [.ended n]
  else t.entry n ++ [.kept n t.action] ++ t.uploads config n ++ t.holds config n ++ [.ended n]

def writes (chunks : List Bytes) : List TaskAct := chunks.map (.wrote n t.connection)

/-- What is done for a request: its script, and only then the bytes of its reply, of which some may
be missing in the end. A request that is dropped has no reply. -/
inductive Course : List TaskAct → Prop
  | pending (drop : Bool) (done left : List TaskAct) (more : left ≠ [])
    (split : t.script config n drop = done ++ left) : Course done
  | dropped : Course (t.script config n true)
  | answering (chunks : List Bytes) (written : chunks.flatten <+: (t.frame? config).getD []) :
    Course (t.script config n false ++ t.writes n chunks)
  | gaveUp (chunks : List Bytes) (written : chunks.flatten <+: (t.frame? config).getD []) :
    Course (t.script config n false ++ t.writes n chunks ++ [.gaveUp n])

/-- What has been done for a request that has come to a stage. -/
def Told (stage : TaskStage) (done : List TaskAct) : Prop :=
  match stage with
  | .measuring => done = [.counted n]
  | .noting => done = [.counted n, .measured n t.count]
  | .checking => done = t.entry n
  | .dropping => done = t.entry n ++ [.dropped n t.action]
  | .leaving => done = t.script config n true
  | .uploading upload =>
    config.upload? t.request = some upload ∧ done = t.entry n ++ [.kept n t.action]
  | .answering => done = t.entry n ++ [.kept n t.action] ++ t.uploads config n
  | .waiting =>
    done = t.entry n ++ [.kept n t.action] ++ t.uploads config n ++ t.holds config n
  | .halting | .replying => done = t.script config n false
  | .writing rest => ∃ chunks, t.frame? config = some (chunks.flatten ++ rest) ∧
      done = t.script config n false ++ t.writes n chunks
  | .finished => done = t.script config n true ∨
      (∃ chunks, t.frame? config = some chunks.flatten ∧
        done = t.script config n false ++ t.writes n chunks) ∨
      ∃ chunks, chunks.flatten <+: (t.frame? config).getD [] ∧
        done = t.script config n false ++ t.writes n chunks ++ [.gaveUp n]

end MockTask

theorem TaskAct.isOf_iff {n : Nat} {act : TaskAct} : act.isOf n = true ↔ act.number? = some n := by
  rw [isOf, beq_iff_eq]

namespace MockTask

open TaskAct (isOf_iff)

variable {config : MockConfig} {a : MockAgent} {n m : Nat} {t : MockTask} {stage : TaskStage}
  {acts done : List TaskAct}

theorem told_afterCheck (told : done = t.entry n ++ [.kept n t.action]) :
    t.Told config n (t.afterCheck config) done := by
  unfold afterCheck
  split
  next upload found => exact ⟨found, told⟩
  next none =>
    rw [Told, uploads, none, told]
    exact (List.append_nil _).symm

theorem told_afterEnd (told : done = t.script config n false) :
    t.Told config n t.afterEnd done := by
  unfold afterEnd
  split <;> exact told

theorem writes_append (chunks : List Bytes) (chunk : Bytes) :
    t.writes n chunks ++ [.wrote n t.connection chunk] = t.writes n (chunks ++ [chunk]) := by
  rw [writes, writes, List.map_append, List.map_singleton]

theorem told_of_over (chunks : List Bytes) (rest : Bytes)
    (fits : t.frame? config = some (chunks.flatten ++ rest)) :
    t.Told config n (if rest = [] then .finished else .writing rest)
      (t.script config n false ++ t.writes n chunks) := by
  split
  next last =>
    rw [last, List.append_nil] at fits
    exact .inr (.inl ⟨chunks, fits, rfl⟩)
  next => exact ⟨chunks, fits, rfl⟩

theorem remaining_afterEnd (t : MockTask) : t.afterEnd.remaining = 0 := by
  unfold afterEnd
  split <;> rfl

theorem remaining_afterCheck (config : MockConfig) (t : MockTask) :
    (t.afterCheck config).remaining = 3 ∨ (t.afterCheck config).remaining = 2 := by
  unfold afterCheck
  split
  · exact .inl rfl
  · exact .inr rfl

theorem Advance.remaining (advance : t.Advance a n stage acts) :
    stage.remaining < t.stage.remaining ∨ t.stage.remaining = 0 ∧ stage.remaining = 0 := by
  cases advance with
  | kept here =>
    left
    rw [here]
    show _ < 4
    rcases remaining_afterCheck a.config t with after | after <;> omega
  | prompt here | due here =>
    left
    rw [here, remaining_afterEnd]
    decide
  | wrote chunk rest turn =>
    right
    rcases turn with ⟨here, -⟩ | here <;> rw [here] <;> split <;> simp [TaskStage.remaining]
  | failed turn =>
    right
    rcases turn with here | ⟨rest, here⟩ <;> simp [here, TaskStage.remaining]
  | measured here | noted here | dropped here | cut here | left here | uploaded _ here
  | held _ here | abandoned here | halted here => simp [here, TaskStage.remaining]

theorem pending_afterEnd (t : MockTask) : t.afterEnd.isPending = false := by
  rw [TaskStage.isPending, remaining_afterEnd]
  rfl

theorem pending_afterCheck (config : MockConfig) (t : MockTask) :
    (t.afterCheck config).isPending = true := by
  rw [TaskStage.isPending]
  rcases remaining_afterCheck config t with after | after <;> rw [after] <;> rfl

/-- A request goes on as it is, or comes to its end, which is counted. -/
theorem Advance.tally (advance : t.Advance a n stage acts) :
    acts.countP TaskAct.isCounted = 0 ∧
      (stage.isPending = t.stage.isPending ∧ acts.countP TaskAct.isEnded = 0 ∧
          (acts.foldl MockAgent.after a).inFlight = a.inFlight ∨
        t.stage.isPending = true ∧ stage.isPending = false ∧ acts.countP TaskAct.isEnded = 1 ∧
          (acts.foldl MockAgent.after a).inFlight = a.inFlight - 1) := by
  cases advance with
  | measured here | noted here | dropped here | left here | uploaded _ here | held _ here
  | halted here =>
    exact ⟨rfl, .inl ⟨by rw [here]; rfl, rfl, rfl⟩⟩
  | kept here => exact ⟨rfl, .inl ⟨by rw [here, pending_afterCheck]; rfl, rfl, rfl⟩⟩
  | cut here | abandoned here => exact ⟨rfl, .inr ⟨by rw [here]; rfl, rfl, rfl, rfl⟩⟩
  | prompt here | due here =>
    exact ⟨rfl, .inr ⟨by rw [here]; rfl, pending_afterEnd t, rfl, rfl⟩⟩
  | wrote chunk rest turn =>
    have after : TaskStage.isPending (if rest = [] then .finished else .writing rest) = false := by
      split <;> rfl
    refine ⟨rfl, .inl ⟨?_, rfl, rfl⟩⟩
    rw [after]
    rcases turn with ⟨here, -⟩ | here <;> rw [here] <;> rfl
  | failed turn =>
    refine ⟨rfl, .inl ⟨?_, rfl, rfl⟩⟩
    rcases turn with here | ⟨rest, here⟩ <;> rw [here] <;> rfl

/-- The first step of a request enters its count, and no other step has to do with counts. -/
theorem Advance.peak (advance : t.Advance a n stage acts) :
    (acts.foldl MockAgent.after a).maxInFlight =
      if t.stage = .measuring then max a.maxInFlight t.count else a.maxInFlight := by
  cases advance with
  | measured here | noted here | dropped here | left here | uploaded _ here | held _ here
  | halted here | kept here | cut here | abandoned here | prompt here | due here =>
    rw [here]
    rfl
  | wrote chunk rest turn => rcases turn with ⟨here, -⟩ | here <;> rw [here] <;> rfl
  | failed turn => rcases turn with here | ⟨rest, here⟩ <;> rw [here] <;> rfl

/-- What a step decides about dropping a request of an action is what the agent says of it. -/
theorem Advance.verdict (advance : t.Advance a n stage acts) (action : Action) :
    acts.filterMap (TaskAct.verdict? action) = [] ∨
      acts.filterMap (TaskAct.verdict? action) = [a.drops action] := by
  cases advance with
  | dropped here drops =>
    by_cases same : t.action = action
    · subst same
      right
      simp [TaskAct.verdict?, drops]
    · left
      simp [TaskAct.verdict?, same]
  | kept here keeps =>
    by_cases same : t.action = action
    · subst same
      right
      simp [TaskAct.verdict?, keeps]
    · left
      simp [TaskAct.verdict?, same]
  | _ => exact .inl rfl

/-- What a step adds for its request is what the next stage tells. -/
theorem Advance.told (advance : t.Advance a n stage acts)
    (told : t.Told a.config n t.stage done) :
    t.Told a.config n stage (done ++ acts.filter (·.isOf n)) := by
  cases advance with
  | measured here | noted here | dropped here | cut here =>
    rw [here] at told
    obtain rfl := told
    simp [Told, isOf_iff, TaskAct.number?, entry, script]
  | kept here =>
    rw [here] at told
    obtain rfl := told
    exact told_afterCheck (by simp [isOf_iff, TaskAct.number?])
  | left here =>
    rw [here] at told
    obtain rfl := told
    exact .inl (by simp [isOf_iff, TaskAct.number?])
  | uploaded upload here =>
    rw [here] at told
    obtain ⟨found, rfl⟩ := told
    simp [Told, uploads, found, isOf_iff, TaskAct.number?]
  | held delay here slow =>
    rw [here] at told
    obtain rfl := told
    simp [Told, holds, slow, reply, isOf_iff, TaskAct.number?]
  | prompt here prompt =>
    rw [here] at told
    obtain rfl := told
    exact told_afterEnd (by simp [script, holds, prompt, isOf_iff, TaskAct.number?])
  | due here =>
    rw [here] at told
    obtain rfl := told
    exact told_afterEnd (by simp [script, isOf_iff, TaskAct.number?])
  | abandoned here =>
    rw [here] at told
    obtain rfl := told
    exact .inr (.inr ⟨[], List.nil_prefix, by simp [script, writes, isOf_iff, TaskAct.number?]⟩)
  | halted here =>
    rw [here] at told
    obtain rfl := told
    simp [Told, isOf_iff, TaskAct.number?]
  | wrote chunk rest turn =>
    have only : [TaskAct.wrote n t.connection chunk].filter (·.isOf n) =
        [.wrote n t.connection chunk] := by
      simp [isOf_iff, TaskAct.number?]
    rw [only]
    rcases turn with ⟨here, fits⟩ | here
    · rw [here] at told
      obtain rfl := told
      exact told_of_over [chunk] rest (by simpa using fits)
    · rw [here] at told
      obtain ⟨chunks, fits, rfl⟩ := told
      rw [List.append_assoc, writes_append]
      exact told_of_over (chunks ++ [chunk]) rest (by simpa using fits)
  | failed turn =>
    have only : [TaskAct.gaveUp n].filter (·.isOf n) = [.gaveUp n] := by
      simp [isOf_iff, TaskAct.number?]
    rw [only]
    rcases turn with here | ⟨rest, here⟩
    · rw [here] at told
      obtain rfl := told
      exact .inr (.inr ⟨[], List.nil_prefix, by simp [writes]⟩)
    · rw [here] at told
      obtain ⟨chunks, fits, rfl⟩ := told
      exact .inr (.inr ⟨chunks, by simp [fits], rfl⟩)

theorem Advance.number (advance : t.Advance a n stage acts) :
    ∀ act ∈ acts, ∀ m, act.number? = some m → m = n := by
  cases advance <;> simp [TaskAct.number?, reply]

theorem course_of_script : t.Course config n (t.script config n false) := by
  have course : t.Course config n (t.script config n false ++ t.writes n []) :=
    .answering [] List.nil_prefix
  simpa [writes] using course

/-- The stage tells where on its course a request is. -/
theorem course_of_told (told : t.Told config n stage done) : t.Course config n done := by
  unfold Told at told
  split at told
  · subst told
    refine .pending false _ ([.measured n t.count, .noted n t.request, .kept n t.action] ++
      t.uploads config n ++ t.holds config n ++ [.ended n]) (by simp) ?_
    simp [script, entry]
  · subst told
    refine .pending false _ ([.noted n t.request, .kept n t.action] ++ t.uploads config n ++
      t.holds config n ++ [.ended n]) (by simp) ?_
    simp [script, entry]
  · subst told
    refine .pending false _ ([.kept n t.action] ++ t.uploads config n ++ t.holds config n ++
      [.ended n]) (by simp) ?_
    simp [script]
  · subst told
    exact .pending true _ [.ended n] (by simp) rfl
  · subst told
    exact .dropped
  · obtain ⟨-, rfl⟩ := told
    refine .pending false _ (t.uploads config n ++ t.holds config n ++ [.ended n]) (by simp) ?_
    simp [script]
  · subst told
    refine .pending false _ (t.holds config n ++ [.ended n]) (by simp) ?_
    simp [script]
  · subst told
    exact .pending false _ [.ended n] (by simp) rfl
  · subst told
    exact course_of_script
  · subst told
    exact course_of_script
  · obtain ⟨chunks, fits, rfl⟩ := told
    exact .answering chunks (by simp [fits])
  · rcases told with rfl | ⟨chunks, fits, rfl⟩ | ⟨chunks, written, rfl⟩
    · exact .dropped
    · exact .answering chunks (by simp [fits])
    · exact .gaveUp chunks written

theorem ended_mem_script (drop : Bool) : .ended n ∈ t.script config n drop := by
  cases drop <;> simp [script]

theorem ended_iff_of_told (told : t.Told config n stage done) :
    .ended n ∈ done ↔ stage.remaining = 0 := by
  cases stage with
  | measuring | noting | checking | dropping | answering | waiting =>
    obtain rfl := told
    simp [entry, uploads, holds, TaskStage.remaining]
  | uploading upload =>
    obtain ⟨-, rfl⟩ := told
    simp [entry, TaskStage.remaining]
  | leaving | halting | replying =>
    obtain rfl := told
    exact iff_of_true (ended_mem_script _) rfl
  | writing rest =>
    obtain ⟨chunks, -, rfl⟩ := told
    exact iff_of_true (List.mem_append_left _ (ended_mem_script _)) rfl
  | finished =>
    refine iff_of_true ?_ rfl
    rcases told with rfl | ⟨chunks, -, rfl⟩ | ⟨chunks, -, rfl⟩
    · exact ended_mem_script _
    · exact List.mem_append_left _ (ended_mem_script _)
    · exact List.mem_append_left _ (List.mem_append_left _ (ended_mem_script _))

/-- A request that has come to its end has done its script, and no more than reply behind it. -/
theorem script_of_told (told : t.Told config n stage done) (ended : stage.remaining = 0) :
    done = t.script config n true ∨ ∃ replies, (∀ act ∈ replies,
      (∃ bytes, act = .wrote n t.connection bytes) ∨ act = .gaveUp n) ∧
        done = t.script config n false ++ replies := by
  have writes (chunks : List Bytes) : ∀ act ∈ t.writes n chunks,
      (∃ bytes, act = .wrote n t.connection bytes) ∨ act = .gaveUp n := by
    intro act mem
    obtain ⟨chunk, -, rfl⟩ := List.mem_map.mp mem
    exact .inl ⟨chunk, rfl⟩
  cases stage with
  | measuring | noting | checking | dropping | uploading _ | answering | waiting => cases ended
  | leaving => exact .inl told
  | halting | replying => exact .inr ⟨[], nofun, told.trans (List.append_nil _).symm⟩
  | writing rest =>
    obtain ⟨chunks, -, done⟩ := told
    exact .inr ⟨_, writes chunks, done⟩
  | finished =>
    rcases told with done | ⟨chunks, -, done⟩ | ⟨chunks, -, done⟩
    · exact .inl done
    · exact .inr ⟨_, writes chunks, done⟩
    · refine .inr ⟨t.writes n chunks ++ [.gaveUp n], fun act mem => ?_,
        done.trans (List.append_assoc _ _ _)⟩
      rcases List.mem_append.mp mem with mem | mem
      · exact writes chunks act mem
      · exact .inr (List.mem_singleton.mp mem)

end MockTask

end ClassSwap
