import ClassSwap.Proofs.TaskMoves

namespace ClassSwap

namespace MockTasks

def Leads (s : MockTasks) (a : MockAgent) (tasks : List MockTask) : Prop :=
  ∃ events log, s.run events = ⟨a, tasks, log⟩

variable {s : MockTasks} {a a' : MockAgent} {tasks tasks' : List MockTask} {log : List TaskAct}
  {n : Nat} {t : MockTask} {stage : TaskStage} {acts : List TaskAct}

theorem leads_self (s : MockTasks) : s.Leads s.agent s.tasks := ⟨[], s.log, rfl⟩

theorem Leads.step (leads : s.Leads a tasks) (e : TaskEvent)
    (step : ∀ log, ∃ log', (⟨a, tasks, log⟩ : MockTasks).step e = ⟨a', tasks', log'⟩) :
    s.Leads a' tasks' := by
  obtain ⟨events, log, ran⟩ := leads
  obtain ⟨log', stepped⟩ := step log
  refine ⟨events ++ [e], log', ?_⟩
  have ran' : events.foldl MockTasks.step s = ⟨a, tasks, log⟩ := ran
  rw [run, List.foldl_append, ran']
  exact stepped

/-- The task takes a step from the stage that it has come to. -/
theorem Leads.move (leads : s.Leads a (tasks.set n t)) (inside : n < tasks.length) (e : TaskEvent)
    (f : MockTask → Option (TaskStage × List TaskAct))
    (event : ∀ log, (⟨a, tasks.set n t, log⟩ : MockTasks).step e =
      (⟨a, tasks.set n t, log⟩ : MockTasks).move n f)
    (next : f t = some (stage, acts)) :
    s.Leads (acts.foldl MockAgent.after a) (tasks.set n { t with stage }) := by
  refine leads.step e fun log => ⟨log ++ acts, ?_⟩
  rw [event, MockTasks.move, List.getElem?_set_self inside]
  simp only [next, perform, List.set_set]

theorem Leads.goesOn (leads : s.Leads a (tasks.set n t)) (inside : n < tasks.length)
    (next : t.next? a.config n (a.drops t.action) = some (stage, acts)) :
    s.Leads (acts.foldl MockAgent.after a) (tasks.set n { t with stage }) :=
  leads.move inside (.goesOn n) (fun t => t.next? a.config n (a.drops t.action)) (fun _ => rfl) next

def Quiet (tasks : List MockTask) : Prop := ∀ t ∈ tasks, t.stage = .waiting ∨ t.stage = .finished

theorem Quiet.set (quiet : Quiet tasks) (rests : t.stage = .waiting ∨ t.stage = .finished) :
    Quiet (tasks.set n t) := by
  intro u mem
  rcases List.mem_or_eq_of_mem_set mem with mem | rfl
  · exact quiet u mem
  · exact rests

/-- A reply is written as a whole; or not at all, if it is too large or its connection is gone. -/
theorem Leads.reply (leads : s.Leads a (tasks.set n { t with stage := .replying }))
    (inside : n < tasks.length) (quiet : Quiet tasks) :
    s.Leads a (tasks.set n { t with stage := .finished }) := by
  have silent : (tasks.set n { t with stage := .replying }).any
      (fun u => u.connection == t.connection && u.isWriting) = false := by
    rw [List.any_eq_false]
    intro u mem
    have silent : u.isWriting = false := by
      rcases List.mem_or_eq_of_mem_set mem with mem | rfl
      · rcases quiet u mem with here | here <;> rw [MockTask.isWriting, here]
      · rfl
    simp [silent]
  have failed : s.Leads a (tasks.set n { t with stage := .finished }) :=
    leads.move inside (.failed n) (fun t => t.fail? n) (fun _ => rfl) rfl
  cases fits : t.frame? a.config with
  | none => exact failed
  | some frame =>
    cases live : a.live.contains t.connection with
    | false => exact failed
    | true =>
      have free (log : List TaskAct) : (⟨a, tasks.set n { t with stage := .replying }, log⟩ :
          MockTasks).isFree t.connection = true := by
        simp only [isFree, live, silent, Bool.not_false, Bool.and_true]
      have fits' : ({ t with stage := .replying } : MockTask).frame? a.config = some frame := fits
      have whole : ({ t with stage := .replying } : MockTask).write? a.config n true frame.length =
          some (.finished, [.wrote n t.connection frame]) := by
        simp [MockTask.write?, MockTask.unwritten?, fits', List.take_of_length_le]
      refine leads.move inside (.written n frame.length)
        (fun t => t.write? a.config n true frame.length) (fun log => ?_) whole
      simp only [MockTasks.step, MockTasks.move, List.getElem?_set_self inside, free]

/-- What is left of a request once it has ended: the agent halts, if it has to, and the reply is
written. -/
theorem Leads.conclude (leads : s.Leads a (tasks.set n { t with stage := t.afterEnd }))
    (inside : n < tasks.length) (quiet : Quiet tasks) :
    s.Leads (if (t.request.command == .halt) = true then { a with halted := true } else a)
      (tasks.set n { t with stage := .finished }) := by
  unfold MockTask.afterEnd at leads
  split at leads
  next halts =>
    rw [if_pos halts]
    have next (drops : Bool) : ({ t with stage := .halting } : MockTask).next? a.config n drops =
        some (.replying, [.halted]) := rfl
    exact (leads.goesOn inside (next _)).reply inside quiet
  next stays =>
    rw [if_neg stays]
    exact leads.reply inside quiet

/-- The agent with its tasks, none of which is in the middle of its steps. -/
structure Settled (a : MockAgent) (tasks : List MockTask) : Prop where
  quiet : Quiet tasks
  held : ∀ reply ∈ a.held, ∃ t, tasks[reply.number]? = some t ∧ t.stage = .waiting ∧
    reply = t.reply a.config reply.number
  numbers : a.requests.length = tasks.length

theorem Settled.listens (settled : Settled a tasks) (log : List TaskAct) (connection : Nat) :
    (⟨a, tasks, log⟩ : MockTasks).listens connection = a.live.contains connection := by
  have idle : tasks.any (fun t => t.connection == connection && t.occupies a.config) = false := by
    rw [List.any_eq_false]
    intro t mem
    rcases settled.quiet t mem with here | here <;> simp [MockTask.occupies, here]
  simp only [MockTasks.listens, idle, Bool.not_false, Bool.and_true]

/-- Replies that are held back are those of requests from before. -/
theorem Settled.others (settled : Settled a tasks) :
    a.held.filter (·.number != tasks.length) = a.held := by
  refine List.filter_eq_self.mpr fun reply mem => ?_
  obtain ⟨t, found, -⟩ := settled.held reply mem
  have inside := (List.getElem?_eq_some_iff.mp found).1
  simpa using Nat.ne_of_lt inside

/-- Another request moves, and those whose replies are held back stay as they are. -/
theorem Settled.set {a' : MockAgent} (settled : Settled a tasks)
    (rests : t.stage = .waiting ∨ t.stage = .finished) (config : a'.config = a.config)
    (held : ∀ reply ∈ a'.held, reply ∈ a.held ∧ reply.number ≠ n)
    (numbers : a'.requests.length = a.requests.length) : Settled a' (tasks.set n t) where
  quiet := settled.quiet.set rests
  held reply mem := by
    obtain ⟨mem, other⟩ := held reply mem
    obtain ⟨u, found, rest⟩ := settled.held reply mem
    exact ⟨u, (List.getElem?_set_ne other.symm).trans found, config ▸ rest⟩
  numbers := by rw [numbers, settled.numbers, List.length_set]

/-- The agent after the end of a request whose reply was held back. -/
def released (a : MockAgent) (n : Nat) : MockAgent :=
  { a.finish with held := a.held.filter (·.number != n) }

theorem released_eq (others : a.held.filter (·.number != n) = a.held) :
    released a n = a.finish := by
  rw [released, others]
  rfl

/-- What is held back under a number belongs to the request with that number. -/
theorem Settled.waiting (settled : Settled a tasks) {reply : HeldReply}
    (found : a.held.find? (·.number == n) = some reply) :
    ∃ t, tasks[n]? = some t ∧ t.stage = .waiting ∧ reply = t.reply a.config n := by
  have number : reply.number = n := by simpa using List.find?_some found
  subst number
  exact settled.held reply (List.mem_of_find?_eq_some found)

theorem Settled.ofReleased (settled : Settled a tasks) (t : MockTask) :
    Settled (released a n) (tasks.set n { t with stage := .finished }) :=
  settled.set (.inr rfl) rfl (fun reply mem => by simpa [MockTasks.released] using mem) rfl

theorem Settled.haltedIf (settled : Settled a tasks) (halts : Bool) :
    Settled (if halts = true then { a with halted := true } else a) tasks := by
  split
  · exact ⟨settled.quiet, settled.held, settled.numbers⟩
  · exact settled

theorem conclude_eq (a : MockAgent) (reply : HeldReply) :
    (a.conclude reply).1 =
      if reply.halts = true then { a.finish with halted := true } else a.finish := by
  unfold MockAgent.conclude
  split <;> rfl

theorem Settled.join {a' : MockAgent} (settled : Settled a tasks) (t : MockTask)
    (config : a'.config = a.config)
    (held : a'.held = a.held ∧ t.stage = .finished ∨
      a'.held = a.held ++ [t.reply a.config tasks.length] ∧ t.stage = .waiting)
    (numbers : a'.requests.length = a.requests.length + 1) : Settled a' (tasks ++ [t]) where
  quiet u mem := by
    rcases List.mem_append.mp mem with mem | mem
    · exact settled.quiet u mem
    · obtain rfl := List.mem_singleton.mp mem
      rcases held with ⟨-, finished⟩ | ⟨-, waits⟩
      · exact .inr finished
      · exact .inl waits
  held reply mem := by
    have old (mem : reply ∈ a.held) : ∃ u, (tasks ++ [t])[reply.number]? = some u ∧
        u.stage = .waiting ∧ reply = u.reply a'.config reply.number := by
      obtain ⟨u, found, rest⟩ := settled.held reply mem
      have inside := (List.getElem?_eq_some_iff.mp found).1
      exact ⟨u, (List.getElem?_append_left inside).trans found, config ▸ rest⟩
    rcases held with ⟨same, -⟩ | ⟨more, waits⟩
    · exact old (same ▸ mem)
    · rcases List.mem_append.mp (more ▸ mem) with mem | mem
      · exact old mem
      · obtain rfl := List.mem_singleton.mp mem
        exact ⟨t, List.getElem?_concat_length .., waits, config ▸ rfl⟩
  numbers := by rw [numbers, settled.numbers, List.length_append, List.length_singleton]

theorem set_concat (tasks : List MockTask) (t u : MockTask) :
    (tasks ++ [t]).set tasks.length u = tasks ++ [u] := by
  rw [List.set_append_right _ _ (Nat.le_refl _), Nat.sub_self, List.set_cons_zero]

/-- A request has been kept, and what it brings is recorded. -/
theorem Leads.kept (leads : s.Leads a (tasks.set n { t with stage := .checking }))
    (inside : n < tasks.length) (keeps : a.drops t.action = false) :
    s.Leads { a with uploads := a.uploads ++ (a.config.upload? t.request).toList }
      (tasks.set n { t with stage := .answering }) := by
  have next : ({ t with stage := .checking } : MockTask).next? a.config n (a.drops t.action) =
      some (t.afterCheck a.config, [.kept n t.action]) := by
    rw [MockTask.next?, keeps]
    rfl
  have checked := leads.goesOn inside next
  rw [MockTask.afterCheck] at checked
  split at checked
  next upload brings =>
    have next (drops : Bool) : ({ t with stage := .uploading upload } : MockTask).next? a.config n
        drops = some (.answering, [.uploaded n upload]) := rfl
    rw [brings]
    exact checked.goesOn inside (next _)
  next none =>
    rw [none, Option.toList_none, List.append_nil]
    exact checked

/-- A request that is dropped ends, and its connection is closed. -/
theorem Leads.dropped (leads : s.Leads a (tasks.set n { t with stage := .checking }))
    (inside : n < tasks.length) (drops : a.drops t.action = true) :
    s.Leads ((released { a with spent := a.spent ++ [t.action] } n).hangUp t.connection)
      (tasks.set n { t with stage := .finished }) := by
  have next : ({ t with stage := .checking } : MockTask).next? a.config n (a.drops t.action) =
      some (.dropping, [.dropped n t.action]) := by
    rw [MockTask.next?, drops]
    rfl
  have ends (drops : Bool) : ({ t with stage := .dropping } : MockTask).next? a.config n drops =
      some (.leaving, [.ended n]) := rfl
  have leaves (drops : Bool) : ({ t with stage := .leaving } : MockTask).next? a.config n drops =
      some (.finished, [.closed t.connection]) := rfl
  exact ((leads.goesOn inside next).goesOn inside (ends _)).goesOn inside (leaves _)

/-- The agent once it has recorded a request that it keeps. -/
def kept (a : MockAgent) (r : Request) : MockAgent :=
  { a.takeNote r with uploads := a.uploads ++ (a.config.upload? r).toList }

section

variable {connection : Nat} {r : Request}

theorem handle_dropped (drops : (a.takeNote r).drops r.command.action = true) :
    (a.handle connection r).1 =
      { a.takeNote r with spent := a.spent ++ [r.command.action] }.finish.hangUp connection := by
  simp only [MockAgent.handle, drops, if_true]
  rfl

theorem handle_held {delay : Duration} (keeps : (a.takeNote r).drops r.command.action = false)
    (slow : a.config.delay? r.command.action = some delay) :
    (a.handle connection r).1 = { kept a r with
      held := a.held ++
        [⟨a.requests.length, connection, a.config.payload r, r.command == .halt⟩] } := by
  have slow' : (a.takeNote r).config.delay? r.command.action = some delay := slow
  simp only [MockAgent.handle, keeps, slow']
  rfl

theorem handle_prompt (keeps : (a.takeNote r).drops r.command.action = false)
    (prompt : a.config.delay? r.command.action = none) :
    (a.handle connection r).1 = if (r.command == .halt) = true then
      { (kept a r).finish with halted := true } else (kept a r).finish := by
  have prompt' : (a.takeNote r).config.delay? r.command.action = none := prompt
  simp only [MockAgent.handle, keeps, prompt', conclude_eq]
  rfl

end

/-- A new request is counted, enters its count and is recorded. -/
theorem Settled.noted (settled : Settled a tasks) (leads : s.Leads a tasks) {connection : Nat}
    (live : a.live.contains connection = true) {payload : Bytes} {r : Request}
    (decoded : Frame.decode Request.read payload = .ok r) :
    s.Leads (a.takeNote r) (tasks ++ [⟨connection, r, a.inFlight + 1, .checking⟩]) := by
  let t : MockTask := ⟨connection, r, a.inFlight + 1, .measuring⟩
  let n := tasks.length
  have inside : n < (tasks ++ [t]).length := by simp [n]
  have last (u : MockTask) : (tasks ++ [t]).set n u = tasks ++ [u] := set_concat tasks _ u
  have begun : s.Leads { a with inFlight := a.inFlight + 1 } ((tasks ++ [t]).set n t) := by
    refine leads.step (.received connection payload) fun log => ⟨log ++ [.counted n], ?_⟩
    rw [MockTasks.step, settled.listens, if_pos live, MockTasks.received, decoded, last]
    rfl
  have measures (a : MockAgent) (drops : Bool) : t.next? a.config n drops =
      some (.noting, [.measured n t.count]) := rfl
  have notes (a : MockAgent) (drops : Bool) : ({ t with stage := .noting } : MockTask).next?
      a.config n drops = some (.checking, [.noted n r]) := rfl
  have done := (begun.goesOn inside (measures _ _)).goesOn inside (notes _ _)
  rwa [last] at done

theorem Settled.handle (settled : Settled a tasks) (leads : s.Leads a tasks) (connection : Nat)
    (live : a.live.contains connection = true) (payload : Bytes) (r : Request)
    (decoded : Frame.decode Request.read payload = .ok r) :
    ∃ tasks', s.Leads (a.handle connection r).1 tasks' ∧
      Settled (a.handle connection r).1 tasks' := by
  let t : MockTask := ⟨connection, r, a.inFlight + 1, .measuring⟩
  let n := tasks.length
  let base := tasks ++ [{ t with stage := .finished }]
  have inside : n < base.length := by simp [n, base]
  have quiet : Quiet base := by
    intro u mem
    rcases List.mem_append.mp mem with mem | mem
    · exact settled.quiet u mem
    · obtain rfl := List.mem_singleton.mp mem
      exact .inr rfl
  have last (u : MockTask) : base.set n u = tasks ++ [u] := set_concat tasks _ u
  have noted : s.Leads (a.takeNote r) (base.set n { t with stage := .checking }) := by
    rw [last]
    exact settled.noted leads live decoded
  have more : (a.takeNote r).requests.length = a.requests.length + 1 := by
    simp [MockAgent.takeNote]
  cases drops : (a.takeNote r).drops r.command.action with
  | true =>
    have done := noted.dropped inside drops
    have ended : released { a.takeNote r with spent := (a.takeNote r).spent ++ [t.action] } n =
        { a.takeNote r with spent := (a.takeNote r).spent ++ [t.action] }.finish :=
      released_eq settled.others
    rw [last, ended] at done
    rw [handle_dropped drops]
    exact ⟨_, done, settled.join _ rfl (.inl ⟨rfl, rfl⟩) more⟩
  | false =>
    have answered : s.Leads (kept a r) (base.set n { t with stage := .answering }) :=
      noted.kept inside drops
    cases slow : a.config.delay? r.command.action with
    | some delay =>
      have next (drops : Bool) : ({ t with stage := .answering } : MockTask).next? a.config n
          drops = some (.waiting, [.held (t.reply a.config n) delay]) := by
        have slow' : ({ t with stage := .answering } : MockTask).delay? a.config = some delay :=
          slow
        rw [MockTask.next?, slow']
        rfl
      have done := answered.goesOn inside (next _)
      rw [last] at done
      rw [handle_held drops slow, settled.numbers]
      exact ⟨_, done, settled.join _ rfl (.inr ⟨rfl, rfl⟩) more⟩
    | none =>
      have next (drops : Bool) : ({ t with stage := .answering } : MockTask).next? a.config n
          drops = some (t.afterEnd, [.ended n]) := by
        have prompt : ({ t with stage := .answering } : MockTask).delay? a.config = none := slow
        rw [MockTask.next?, prompt]
        rfl
      have ended := answered.goesOn inside (next _)
      have same : [TaskAct.ended n].foldl MockAgent.after (kept a r) = (kept a r).finish :=
        released_eq settled.others
      rw [same] at ended
      have done := ended.conclude inside quiet
      rw [last] at done
      rw [handle_prompt drops slow]
      refine ⟨_, done, Settled.haltedIf ?_ (r.command == .halt)⟩
      exact settled.join _ rfl (.inl ⟨rfl, rfl⟩) more

theorem Settled.received (settled : Settled a tasks) (leads : s.Leads a tasks) (connection : Nat)
    (live : a.live.contains connection = true) (payload : Bytes) :
    ∃ tasks', s.Leads (a.received connection payload).1 tasks' ∧
      Settled (a.received connection payload).1 tasks' := by
  cases decoded : Frame.decode Request.read payload with
  | error e =>
    rw [MockAgent.received, decoded]
    refine ⟨tasks, leads.step (.received connection payload) fun log =>
      ⟨log ++ [.closed connection], ?_⟩, settled.quiet, settled.held, settled.numbers⟩
    rw [MockTasks.step, settled.listens, if_pos live, MockTasks.received, decoded]
    rfl
  | ok r =>
    rw [MockAgent.received, decoded]
    exact settled.handle leads connection live payload r decoded

theorem Settled.step (settled : Settled a tasks) (leads : s.Leads a tasks) (e : MockEvent) :
    ∃ tasks', s.Leads (a.step e).1 tasks' ∧ Settled (a.step e).1 tasks' := by
  cases e with
  | accepted =>
    rw [MockAgent.step]
    split
    · exact ⟨tasks, leads, settled⟩
    · exact ⟨tasks, leads.step .accepted fun log => ⟨_, rfl⟩, settled.quiet, settled.held,
        settled.numbers⟩
  | received connection payload =>
    rw [MockAgent.step]
    split
    next live => exact settled.received leads connection live payload
    next => exact ⟨tasks, leads, settled⟩
  | due n =>
    rw [MockAgent.step, MockAgent.release]
    split
    next reply found =>
      obtain ⟨t, there, waits, rfl⟩ := settled.waiting found
      obtain ⟨inside, rfl⟩ := List.getElem?_eq_some_iff.mp there
      rw [← List.set_getElem_self inside] at leads
      have next : tasks[n].due? n = some (tasks[n].afterEnd, [.ended n]) := by
        rw [MockTask.due?, waits]
      have ended := leads.move inside (.due n) (fun t => t.due? n) (fun _ => rfl) next
      refine ⟨tasks.set n { tasks[n] with stage := .finished }, ?_, ?_⟩
      · rw [conclude_eq]
        exact ended.conclude inside settled.quiet
      · rw [conclude_eq]
        exact (settled.ofReleased tasks[n]).haltedIf _
    next => exact ⟨tasks, leads, settled⟩
  | abandoned n =>
    rw [MockAgent.step]
    split
    next halted =>
      rw [MockAgent.release]
      split
      next reply found =>
        obtain ⟨t, there, waits, rfl⟩ := settled.waiting found
        obtain ⟨inside, rfl⟩ := List.getElem?_eq_some_iff.mp there
        rw [← List.set_getElem_self inside] at leads
        have next : tasks[n].abandon? n a.halted = some (.finished, [.ended n, .gaveUp n]) := by
          rw [MockTask.abandon?, waits, if_pos halted]
        exact ⟨_, leads.move inside (.abandoned n) (fun t => t.abandon? n a.halted) (fun _ => rfl)
          next, settled.ofReleased tasks[n]⟩
      next => exact ⟨tasks, leads, settled⟩
    next => exact ⟨tasks, leads, settled⟩
  | lost connection =>
    rw [MockAgent.step]
    split
    next live =>
      refine ⟨tasks, leads.step (.lost connection) fun log => ⟨log ++ [.closed connection], ?_⟩,
        settled.quiet, settled.held, settled.numbers⟩
      rw [MockTasks.step, settled.listens, if_pos live]
      rfl
    next => exact ⟨tasks, leads, settled⟩

/-- What the agent comes to when nothing comes between the steps of a request is one of the things
that it can come to. -/
theorem exists_run_prompt (config : MockConfig) (events : List MockEvent) :
    ∃ more, ((start config).run more).agent =
      events.foldl (fun a e => (a.step e).1) (MockAgent.start config) := by
  suffices all : ∀ (a : MockAgent) (tasks : List MockTask), (start config).Leads a tasks →
      Settled a tasks → ∃ tasks', (start config).Leads
        (events.foldl (fun a e => (a.step e).1) a) tasks' by
    obtain ⟨tasks, more, log, ran⟩ := all _ _ (leads_self (start config)) ⟨nofun, nofun, rfl⟩
    exact ⟨more, congrArg MockTasks.agent ran⟩
  induction events with
  | nil => exact fun a tasks leads _ => ⟨tasks, leads⟩
  | cons e events ih =>
    intro a tasks leads settled
    obtain ⟨tasks', leads', settled'⟩ := settled.step leads e
    exact ih _ tasks' leads' settled'

end MockTasks

end ClassSwap
