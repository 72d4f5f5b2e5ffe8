import ClassSwap.Proofs.Rehearsal

namespace ClassSwap

def Outcome.ofAnswer : Except ChannelError Reply → Outcome
  | .ok reply => .answered reply
  | .error e => .failed e

def requestOf (e : Endpoint) (place : Nat) (c : Command) : Request :=
  ⟨UInt64.ofNat (place + 1), e.host, e.port, c⟩

def requestsOf (e : Endpoint) (sends : List Send) : List Request :=
  sends.mapIdx fun place s => requestOf e place s.1

def transmissionsOf (e : Endpoint) (sends : List Send) : List Transmission :=
  sends.mapIdx fun place s => ⟨place + 1, 0, requestOf e place s.1⟩

def uploadsOf (sends : List Send) : List MockUpload := sends.filterMap fun s => s.1.upload?

def finishedOf (config : MockConfig) (e : Endpoint) (sends : List Send) : List Finished :=
  ⟨0, .attach e, .attached⟩ :: sends.mapIdx fun place s =>
    ⟨place + 1, .send s.1 s.2, .ofAnswer (config.answer s.1)⟩

theorem requestsOf_concat (e : Endpoint) (sends : List Send) (s : Send) :
    requestsOf e (sends ++ [s]) = requestsOf e sends ++ [requestOf e sends.length s.1] :=
  List.mapIdx_concat

theorem transmissionsOf_concat (e : Endpoint) (sends : List Send) (s : Send) :
    transmissionsOf e (sends ++ [s]) =
      transmissionsOf e sends ++ [⟨sends.length + 1, 0, requestOf e sends.length s.1⟩] :=
  List.mapIdx_concat

theorem uploadsOf_concat (sends : List Send) (s : Send) :
    uploadsOf (sends ++ [s]) = uploadsOf sends ++ s.1.upload?.toList := by
  rw [uploadsOf, List.filterMap_append]
  cases upload : s.1.upload? <;> simp [uploadsOf, upload]

theorem finishedOf_concat (config : MockConfig) (e : Endpoint) (sends : List Send) (s : Send) :
    finishedOf config e (sends ++ [s]) = finishedOf config e sends ++
      [⟨sends.length + 1, .send s.1 s.2, .ofAnswer (config.answer s.1)⟩] := by
  rw [finishedOf, List.mapIdx_concat]
  rfl

def queued (ticket : Nat) : List Send → List (Nat × Operation)
  | [] => []
  | s :: sends => (ticket, .send s.1 s.2) :: queued (ticket + 1) sends

theorem queued_concat (ticket : Nat) (sends : List Send) (s : Send) :
    queued ticket (sends ++ [s]) =
      queued ticket sends ++ [(ticket + sends.length, .send s.1 s.2)] := by
  induction sends generalizing ticket with
  | nil => rfl
  | cons first sends ih =>
    rw [List.cons_append, queued, ih, queued, List.cons_append, List.length_cons]
    congr 4
    omega

namespace Lane

variable (t : Target) (patience : Duration) (id : RequestId) {l : Lane} {x : Exchange}
  {rest : List (Nat × Operation)} {c : Connection}

theorem step_call (l : Lane) (attachable : t.isFileSystem = false) (operation : Operation) :
    l.step t patience id (.call operation) =
      { l with calls := l.calls + 1, queue := l.queue ++ [(l.calls, operation)] } := by
  simp [step, call, attachable]

theorem step_grant_attach {ticket : Nat} {e : Endpoint} (free : l.exchange = none)
    (queue : l.queue = (ticket, .attach e) :: rest) (slot : l.slot = none) :
    ∃ log, l.step t patience id .grant =
      { l with
        queue := rest
        exchange := none
        standing := Standing.attached e
        finished := l.finished ++ [⟨ticket, .attach e, .attached⟩]
        log } := by
  simp only [step, grant, free, queue, release, slot]
  exact ⟨_, rfl⟩

theorem step_grant_send {ticket : Nat} {c : Command} {d : Duration} {e : Endpoint}
    (free : l.exchange = none) (queue : l.queue = (ticket, .send c d) :: rest)
    (known : l.standing.endpoint? = some e) :
    ∃ log, l.step t patience id .grant =
      { l with
        queue := rest
        exchange := some
          { ticket, request := ⟨id, e.host, e.port, c⟩, timeout := d, reused := l.usable?.isSome }
        log } := by
  simp only [step, grant, free, queue, known, start]
  split
  · exact ⟨_, rfl⟩
  · exact ⟨_, rfl⟩

theorem step_choose_dial (held : l.exchange = some x) (stage : x.stage = .choosing)
    (slot : l.slot = none) :
    l.step t patience id .choose = { l with exchange := some { x with stage := .dialing } } := by
  simp [step, proceed, held, choose, stage, usable?, slot, moveTo]

theorem step_choose_keep (held : l.exchange = some x) (stage : x.stage = .choosing)
    (slot : l.slot = some 0) (open_ : l.isOpen 0 = true) :
    l.step t patience id .choose =
      { l with exchange := some { x with stage := .entering 0 } } := by
  simp [step, proceed, held, choose, stage, usable?, slot, open_, moveTo, Option.filter]

theorem step_dialed (held : l.exchange = some x) (stage : x.stage = .dialing)
    (none : l.connections = []) :
    ∃ log, l.step t patience id (.dialed .connected) =
      { l with
        connections := [{ endpoint := ⟨x.request.host, x.request.port⟩ }]
        slot := some 0
        exchange := some { x with stage := .entering 0 }
        log } := by
  simp only [step, proceed, held, dialed, stage, none, note, moveTo, List.length_nil,
    List.nil_append]
  exact ⟨_, rfl⟩

theorem step_enter (held : l.exchange = some x) (stage : x.stage = .entering 0)
    (open_ : l.isOpen 0 = true) :
    l.step t patience id .enter =
      { l with exchange := some { x with stage := .registering 0 } } := by
  simp [step, proceed, held, enter, stage, open_, moveTo]

theorem step_register (held : l.exchange = some x) (stage : x.stage = .registering 0)
    (connections : l.connections = [c]) :
    l.step t patience id .register =
      { l with
        connections := [{ c with pending := c.pending ++ [x.request.id] }]
        exchange := some { x with stage := .writing 0 } } := by
  simp [step, proceed, held, register, stage, update, connections, moveTo]

theorem step_wrote {frame : Bytes} (held : l.exchange = some x) (stage : x.stage = .writing 0)
    (small : Frame.encode x.request.json = .ok frame) :
    l.step t patience id (.wrote .written) =
      { l with
        sent := l.sent ++ [⟨x.ticket, 0, x.request⟩]
        exchange := some { x with stage := .waiting 0 } } := by
  simp [step, proceed, held, wrote, stage, small, moveTo]

theorem step_reply {r : Response} (held : l.exchange = some x) (stage : x.stage = .waiting 0)
    (mail : x.mail = none) (connections : l.connections = [c]) (reading : c.reader = .reading)
    (pending : c.pending = [x.request.id]) (number : r.id = x.request.id) :
    l.step t patience id (.received 0 (Frame.payloadOf r.json)) =
      { l with
        connections := [{ c with pending := [] }]
        exchange := some { x with mail := some (.ok r) } } := by
  simp [step, attend, connections, reading, received, Response.decode_payloadOf, pending, number,
    withdraw, update, deliver, held, stage, mail]

/-- A response that has been handed over is what the call comes to. -/
theorem step_wake_answered {r : Response} {status : TargetStatus} (held : l.exchange = some x)
    (stage : x.stage = .waiting 0) (glance : x.glance = .mail) (mail : x.mail = some (.ok r))
    (going : x.request.command ≠ .halt) (known : l.standing = some status) :
    ∃ standing : Standing, standing.endpoint? = l.standing.endpoint? ∧
      l.step t patience id (.wake false) =
        { l with
          standing
          exchange := none
          finished := l.finished ++ [⟨x.ticket, .send x.request.command x.timeout,
            .ofAnswer (Reply.judge x.request.command r)⟩] } := by
  simp only [step, proceed, held, wake, stage, glance, mail, settle, if_neg going]
  cases verdict : Reply.judge x.request.command r with
  | error error => exact ⟨l.standing, rfl, rfl⟩
  | ok reply =>
    refine ⟨reply.record x.request.command l.standing, Standing.endpoint?_record _ _ _, ?_⟩
    simp only [learn, known]
    rfl

theorem step_wake_halted {r : Response} (held : l.exchange = some x) (stage : x.stage = .waiting 0)
    (glance : x.glance = .mail) (mail : x.mail = some (.ok r)) (halt : x.request.command = .halt)
    (slot : l.slot = some 0) (connections : l.connections = [c]) :
    ∃ standing log, l.step t patience id (.wake false) =
      { l with
        standing
        slot := none
        connections := [{ c with closed := true }]
        exchange := none
        finished := l.finished ++ [⟨x.ticket, .send x.request.command x.timeout, .answered .halted⟩]
        log } := by
  simp only [step, proceed, held, wake, stage, glance, mail, settle, if_pos halt]
  rw [quit_eq]
  split
  · simp only [note, slot, connections, closing]
    exact ⟨_, _, rfl⟩
  · simp only [note, slot, connections, closing]
    exact ⟨_, _, rfl⟩

theorem step_ended {ending : Ending} (connections : l.connections = [c])
    (reading : c.reader = .reading) (ours : ending = .closedHere → c.closed = true) :
    ∃ log, l.step t patience id (.ended 0 ending) =
      { l with connections := [{ c with closed := true, reader := .stopping }], log } := by
  simp only [step, attend, connections, List.getElem?_cons_zero, reading, if_true, ended, update]
  cases ending with
  | closedByAgent => exact ⟨_, rfl⟩
  | broken error => exact ⟨_, rfl⟩
  | closedHere =>
    rw [if_pos (ours rfl)]
    exact ⟨_, rfl⟩

theorem step_drained (connections : l.connections = [c]) (stopping : c.reader = .stopping)
    (pending : c.pending = []) :
    l.step t patience id (.drained 0) =
      { l with connections := [{ c with reader := .stopped }] } := by
  simp [step, attend, connections, stopping, drained, update, deliverAll, pending]

end Lane

namespace Rehearsal

variable (config : MockConfig) (t : Target) (e : Endpoint)

/-- The one connection, with what is under way to the lane. -/
def wire (incoming : Bytes) (closedByAgent : Bool) : Wire :=
  { target := t, connection := 0, agent := 0, peer := 0, incoming, closedByAgent }

/-- The lane has never had a connection. -/
structure Untouched (l : Lane) (wires : List Wire) (a : MockAgent) : Prop where
  slot : l.slot = none
  connections : l.connections = []
  wires : wires = []
  accepted : a.connections = 0
  live : a.live = []
  running : a.halted = false

/-- The lane holds its one connection, `pending` await a response on it, and `incoming` is under
way to it. Behind the response to a halt the agent closes it. -/
structure Linked (l : Lane) (wires : List Wire) (a : MockAgent) (halted : Bool)
    (pending : List RequestId) (incoming : Bytes) : Prop where
  slot : l.slot = some 0
  connections : l.connections = [{ endpoint := e, pending }]
  wires : wires = [wire t incoming halted]
  accepted : a.connections = 1
  live : a.live = if halted then [] else [0]
  stopped : a.halted = halted

/-- The agent has halted, and nothing is under way any more. -/
structure Parted (l : Lane) (wires : List Wire) (a : MockAgent) (c : Connection) : Prop where
  connections : l.connections = [c]
  pending : c.pending = []
  wires : wires = [wire t [] true]
  accepted : a.connections = 1
  live : a.live = []

/-- The accounts of lane and agent: what has begun, what has gone out, what has come to its end and
what is still in the queue. -/
structure Books (begun asked ended later : List Send) (l : Lane) (id : RequestId)
    (a : MockAgent) : Prop where
  calls : l.calls = begun.length + later.length + 1
  queue : l.queue = queued (begun.length + 1) later
  finished : l.finished = finishedOf config e ended
  sent : l.sent = transmissionsOf e asked
  number : id = UInt64.ofNat (begun.length + 1)
  config : a.config = config
  held : a.held = []
  requests : a.requests = requestsOf e asked
  uploads : a.uploads = uploadsOf asked

/-- A request that has not been written yet. -/
inductive Ready (l : Lane) (wires : List Wire) (a : MockAgent) (id : RequestId) : Stage → Prop
  | choosing (line : Untouched l wires a ∨ Linked t e l wires a false [] []) :
      Ready l wires a id .choosing
  | dialing (line : Untouched l wires a) : Ready l wires a id .dialing
  | entering (line : Linked t e l wires a false [] []) : Ready l wires a id (.entering 0)
  | registering (line : Linked t e l wires a false [] []) : Ready l wires a id (.registering 0)
  | writing (line : Linked t e l wires a false [id] []) : Ready l wires a id (.writing 0)

/-- How the connection is once the response to a command has been handed over. -/
def Handed (l : Lane) (wires : List Wire) (a : MockAgent) (c : Command) : Prop :=
  if c = .halt then ∃ c, Parted t l wires a c ∧ l.slot = some 0
  else Linked t e l wires a false [] []

/-- The request of the call after `past`, at a stage. -/
def exchangeOf (past : List Send) (s : Send) (reused : Bool) (stage : Stage)
    (mail : Option (Except ChannelError Response)) : Exchange :=
  { ticket := past.length + 1, request := requestOf e past.length s.1, timeout := s.2, reused,
    stage, mail }

/-- The turn of the call after `past`: how far it has come, and which requests have gone out. -/
structure Turn (sends past later : List Send) (s : Send) (asked : List Send) (reused : Bool)
    (stage : Stage) (mail : Option (Except ChannelError Response)) (l : Lane) (id : RequestId)
    (a : MockAgent) : Prop where
  split : sends = past ++ s :: later
  books : Books config e (past ++ [s]) asked past later l id a
  known : l.standing.endpoint? = some e
  held : l.exchange = some (exchangeOf e past s reused stage mail)

/-- Where a rehearsal stands after `sends` have come in. -/
inductive Phase (sends : List Send) (l : Lane) (id : RequestId) (wires : List Wire)
    (a : MockAgent) : Prop
  | attaching (calls : l.calls = sends.length + 1)
      (queue : l.queue = (0, .attach e) :: queued 1 sends) (finished : l.finished = [])
      (sent : l.sent = []) (number : id = 1) (start : a = .start config) (free : l.exchange = none)
      (line : Untouched l wires a)
  | idle (past later : List Send) (split : sends = past ++ later)
      (books : Books config e past past past later l id a)
      (known : l.standing.endpoint? = some e) (free : l.exchange = none)
      (line : (past = [] ∧ Untouched l wires a) ∨ (past ≠ [] ∧ Linked t e l wires a false [] []))
  | ready (past later : List Send) (s : Send) (reused : Bool) (stage : Stage)
      (turn : Turn config e sends past later s past reused stage none l id a)
      (line : Ready t e l wires a (UInt64.ofNat (past.length + 1)) stage)
  | asked (past later : List Send) (s : Send) (reused : Bool)
      (turn : Turn config e sends past later s (past ++ [s]) reused (.waiting 0) none l id a)
      (frame : Bytes)
      (made : Frame.encode (config.response (requestOf e past.length s.1)).json = .ok frame)
      (line : Linked t e l wires a (s.1 == .halt) [UInt64.ofNat (past.length + 1)] frame)
  | answered (past later : List Send) (s : Send) (reused : Bool)
      (turn : Turn config e sends past later s (past ++ [s]) reused (.waiting 0)
        (some (.ok (config.response (requestOf e past.length s.1)))) l id a)
      (line : Handed t e l wires a s.1)
  | closed (books : Books config e sends sends sends [] l id a) (halted : ∃ s ∈ sends, s.1 = .halt)
      (free : l.exchange = none) (line : ∃ c, Parted t l wires a c)

/-- Everything but the lane of the target and the connection. -/
structure Scene (net : Network) (a : MockAgent) : Prop where
  others (u : Target) : u ≠ t → net.channel.lane u = {}
  reach : net.reach = .loopback
  agents : net.agents = [⟨e.port, .mock a⟩]
  timers : ∀ due ∈ net.timers, ∃ u ticket second, due.2 = .deadline u ticket second

/-- The state of a rehearsal after `sends` have come in. -/
def Stands (sends : List Send) (net : Network) : Prop :=
  ∃ a, Scene t e net a ∧
    Phase config t e sends (net.channel.lane t) net.channel.nextId net.wires a

def stageWork (x : Exchange) : Nat :=
  match x.stage with
  | .choosing => 12
  | .dialing => 11
  | .entering _ => 8
  | .registering _ => 7
  | .writing _ => 6
  | .waiting _ => if x.mail.isSome then 2 else 4

def readerWork (c : Connection) : Nat :=
  match c.reader with
  | .reading => 2
  | .stopping => 1
  | .stopped => 0

def laneWork (l : Lane) : Nat :=
  15 * l.queue.length + (l.exchange.map stageWork).getD 0 + (l.connections.map readerWork).sum

/-- A bound on the steps that are left unless another call comes in. -/
def work (net : Network) : Nat := laneWork (net.channel.lane t) + net.timers.length

variable {config t e} {sends : List Send} {net : Network} {a : MockAgent}

theorem moved {later : Network} {a' : MockAgent} {l' : Lane} {id' : RequestId} {wires : List Wire}
    (scene : Scene t e net a) (event : LaneEvent)
    (channel : later.channel = net.channel.step t event) (reach : later.reach = net.reach)
    (agents : later.agents = [⟨e.port, .mock a'⟩]) (wires_ : later.wires = wires)
    (timers : ∀ due ∈ later.timers, ∃ u ticket second, due.2 = .deadline u ticket second)
    (lane : (net.channel.lane t).step t net.channel.patience net.channel.nextId event = l')
    (number : (net.channel.step t event).nextId = id')
    (phase : Phase config t e sends l' id' wires a')
    (less : laneWork l' + later.timers.length <
      laneWork (net.channel.lane t) + net.timers.length) :
    Stands config t e sends later ∧ work t later < work t net := by
  have same : later.channel.lane t = l' := by rw [channel, Channel.lane_step_self, lane]
  refine ⟨⟨a', ⟨fun u other => ?_, reach.trans scene.reach, agents, timers⟩, ?_⟩, ?_⟩
  · rw [channel, Channel.lane_step_of_ne _ _ other]
    exact scene.others u other
  · rw [same, wires_, channel, number]
    exact phase
  · rw [work, work, same]
    exact less

/-- A step of the lane that the agent does not notice. -/
theorem moved_alone {l' : Lane} {id' : RequestId} (scene : Scene t e net a) (event : LaneEvent)
    (lane : (net.channel.lane t).step t net.channel.patience net.channel.nextId event = l')
    (number : (net.channel.step t event).nextId = id')
    (phase : Phase config t e sends l' id' net.wires a)
    (less : laneWork l' < laneWork (net.channel.lane t)) :
    Stands config t e sends (net.stepLane t event) ∧
      work t (net.stepLane t event) < work t net :=
  moved scene event rfl rfl scene.agents rfl scene.timers lane number phase
    (Nat.add_lt_add_right less _)

theorem nextId_step (event : LaneEvent) (c : Channel) (other : event ≠ .grant) :
    (c.step t event).nextId = c.nextId := by
  simp [Channel.step, other]

theorem nextId_grant (c : Channel) {takes : Bool} (h : (c.lane t).takesNumber = takes) :
    (c.step t .grant).nextId = if takes then c.nextId + 1 else c.nextId := by
  simp [Channel.step, h]

theorem number_succ (n : Nat) : UInt64.ofNat (n + 1) + 1 = UInt64.ofNat (n + 1 + 1) :=
  (UInt64.ofNat_add (n + 1) 1).symm

section Steps

variable {past later : List Send} {s : Send} {reused : Bool}

theorem isOpen_linked {l : Lane} {wires : List Wire} {halted : Bool} {pending : List RequestId}
    {incoming : Bytes} (line : Linked t e l wires a halted pending incoming) :
    l.isOpen 0 = true := by
  simp [Lane.isOpen, line.connections]

theorem attach_moves (scene : Scene t e net a)
    (calls : (net.channel.lane t).calls = sends.length + 1)
    (queue : (net.channel.lane t).queue = (0, .attach e) :: queued 1 sends)
    (finished : (net.channel.lane t).finished = []) (sent : (net.channel.lane t).sent = [])
    (number : net.channel.nextId = 1) (start : a = .start config)
    (free : (net.channel.lane t).exchange = none)
    (line : Untouched (net.channel.lane t) net.wires a) :
    ∃ later, net.advanceLane? t = some later ∧
      Stands config t e sends later ∧ work t later < work t net := by
  obtain ⟨log, lane⟩ :=
    Lane.step_grant_attach t net.channel.patience net.channel.nextId free queue line.slot
  have takes : (net.channel.lane t).takesNumber = false := by
    simp [Lane.takesNumber, free, queue]
  refine ⟨net.stepLane t .grant, by simp [Network.advanceLane?, free, queue], ?_⟩
  refine moved_alone scene .grant lane (nextId_grant _ takes) ?_ ?_
  · subst start
    rw [number]
    refine .idle [] sends rfl ⟨?_, rfl, ?_, sent, rfl, rfl, rfl, rfl, rfl⟩ rfl rfl
      (.inl ⟨rfl, { line with }⟩)
    · exact calls.trans (by rw [List.length_nil, Nat.zero_add])
    · show (net.channel.lane t).finished ++ _ = _
      rw [finished]
      rfl
  · simp only [laneWork, free, queue, List.length_cons, Option.map_none, Option.getD_none]
    omega

theorem grant_moves (scene : Scene t e net a) (split : sends = past ++ s :: later)
    (books : Books config e past past past (s :: later) (net.channel.lane t) net.channel.nextId a)
    (known : (net.channel.lane t).standing.endpoint? = some e)
    (free : (net.channel.lane t).exchange = none)
    (line : Untouched (net.channel.lane t) net.wires a ∨
      Linked t e (net.channel.lane t) net.wires a false [] []) :
    ∃ later, net.advanceLane? t = some later ∧
      Stands config t e sends later ∧ work t later < work t net := by
  have queue : (net.channel.lane t).queue =
      (past.length + 1, .send s.1 s.2) :: queued (past.length + 2) later := books.queue
  obtain ⟨log, lane⟩ :=
    Lane.step_grant_send t net.channel.patience net.channel.nextId free queue known
  have takes : (net.channel.lane t).takesNumber = true := by
    simp [Lane.takesNumber, free, queue, Standing.isAttached, known]
  refine ⟨net.stepLane t .grant, by simp [Network.advanceLane?, free, queue], ?_⟩
  refine moved_alone scene .grant lane (nextId_grant _ takes) ?_ ?_
  · rw [if_pos rfl]
    refine .ready past later s (net.channel.lane t).usable?.isSome .choosing ⟨split, ?_, known, ?_⟩
      (.choosing ?_)
    · refine ⟨?_, ?_, books.finished, books.sent, ?_, books.config, books.held, books.requests,
        books.uploads⟩
      · rw [books.calls, List.length_append, List.length_cons, List.length_singleton]
        omega
      · rw [List.length_append]
        rfl
      · rw [books.number, number_succ, List.length_append, List.length_singleton]
    · rw [books.number]
      rfl
    · exact line.imp (fun line => { line with }) fun line => { line with }
  · simp only [laneWork, free, queue, List.length_cons, Option.map_none, Option.getD_none,
      Option.map_some, Option.getD_some, stageWork]
    omega

theorem advance_turn {asked : List Send} {stage : Stage}
    {mail : Option (Except ChannelError Response)}
    (turn : Turn config e sends past later s asked reused stage mail (net.channel.lane t)
      net.channel.nextId a) :
    net.advanceLane? t = net.advanceCall? t (exchangeOf e past s reused stage mail) := by
  simp [Network.advanceLane?, turn.held]

theorem less_work {l l' : Lane} {x y : Exchange} (held : l.exchange = some x)
    (queue : l'.queue = l.queue) (held' : l'.exchange = some y)
    (connections : l'.connections.map readerWork = l.connections.map readerWork)
    (less : stageWork y < stageWork x) : laneWork l' < laneWork l := by
  simp only [laneWork, queue, held, held', connections, Option.map_some, Option.getD_some]
  omega

theorem choose_moves (scene : Scene t e net a)
    (turn : Turn config e sends past later s past reused .choosing none (net.channel.lane t)
      net.channel.nextId a)
    (line : Untouched (net.channel.lane t) net.wires a ∨
      Linked t e (net.channel.lane t) net.wires a false [] []) :
    ∃ later, net.advanceLane? t = some later ∧
      Stands config t e sends later ∧ work t later < work t net := by
  refine ⟨net.stepLane t .choose, advance_turn turn, ?_⟩
  rcases line with line | line
  · have lane :=
      Lane.step_choose_dial t net.channel.patience net.channel.nextId turn.held rfl line.slot
    refine moved_alone scene .choose lane (nextId_step _ _ nofun) ?_
      (less_work turn.held rfl rfl rfl (by simp [stageWork, exchangeOf]))
    exact .ready past later s reused .dialing
      { turn with books := { turn.books with }, held := rfl } (.dialing { line with })
  · have lane := Lane.step_choose_keep t net.channel.patience net.channel.nextId turn.held rfl
      line.slot (isOpen_linked line)
    refine moved_alone scene .choose lane (nextId_step _ _ nofun) ?_
      (less_work turn.held rfl rfl rfl (by simp [stageWork, exchangeOf]))
    exact .ready past later s reused (.entering 0)
      { turn with books := { turn.books with }, held := rfl } (.entering { line with })

theorem enter_moves (scene : Scene t e net a)
    (turn : Turn config e sends past later s past reused (.entering 0) none (net.channel.lane t)
      net.channel.nextId a)
    (line : Linked t e (net.channel.lane t) net.wires a false [] []) :
    ∃ later, net.advanceLane? t = some later ∧
      Stands config t e sends later ∧ work t later < work t net := by
  have lane :=
    Lane.step_enter t net.channel.patience net.channel.nextId turn.held rfl (isOpen_linked line)
  refine ⟨net.stepLane t .enter, advance_turn turn, ?_⟩
  refine moved_alone scene .enter lane (nextId_step _ _ nofun) ?_
    (less_work turn.held rfl rfl rfl (by simp [stageWork, exchangeOf]))
  exact .ready past later s reused (.registering 0)
    { turn with books := { turn.books with }, held := rfl } (.registering { line with })

theorem register_moves (scene : Scene t e net a)
    (turn : Turn config e sends past later s past reused (.registering 0) none (net.channel.lane t)
      net.channel.nextId a)
    (line : Linked t e (net.channel.lane t) net.wires a false [] []) :
    ∃ later, net.advanceLane? t = some later ∧
      Stands config t e sends later ∧ work t later < work t net := by
  have lane :=
    Lane.step_register t net.channel.patience net.channel.nextId turn.held rfl line.connections
  refine ⟨net.stepLane t .register, advance_turn turn, ?_⟩
  refine moved_alone scene .register lane (nextId_step _ _ nofun) ?_
    (less_work turn.held rfl rfl (by rw [line.connections]; rfl) (by simp [stageWork, exchangeOf]))
  exact .ready past later s reused (.writing 0)
    { turn with books := { turn.books with }, held := rfl }
    (.writing { line with connections := rfl })

theorem dial_moves (scene : Scene t e net a) (near : Network.hostKind e.host = .loopback)
    (turn : Turn config e sends past later s past reused .dialing none (net.channel.lane t)
      net.channel.nextId a)
    (line : Untouched (net.channel.lane t) net.wires a) :
    ∃ later, net.advanceLane? t = some later ∧
      Stands config t e sends later ∧ work t later < work t net := by
  have connected := Network.connect_alone near scene.reach scene.agents line.running
  obtain ⟨log, lane⟩ :=
    Lane.step_dialed t net.channel.patience net.channel.nextId turn.held rfl line.connections
  have accepted := Network.accept_alone (t := t) (net.stepLane t (.dialed .connected)) scene.agents
    line.running line.wires 0
  refine ⟨(net.stepLane t (.dialed .connected)).accept 0 t 0, ?_, ?_⟩
  · rw [advance_turn turn]
    simp only [Network.advanceCall?, exchangeOf, requestOf, connected, line.connections,
      List.length_nil]
  · rw [accepted]
    refine moved scene (.dialed .connected) rfl rfl rfl rfl scene.timers lane
      (nextId_step _ _ nofun) ?_ ?_
    · refine .ready past later s reused (.entering 0)
        { turn with books := { turn.books with }, held := rfl } (.entering ?_)
      exact ⟨rfl, rfl, by simp [wire, line.accepted], by simp [line.accepted],
        by simp [line.live, line.accepted], line.running⟩
    · show laneWork _ + net.timers.length < _
      simp only [laneWork, turn.held, line.connections, exchangeOf, stageWork, Option.map_some,
        Option.getD_some, List.map_cons, List.map_nil, List.sum_cons, List.sum_nil, readerWork]
      omega

theorem write_moves (scene : Scene t e net a) (sound : config.Faultless)
    {request response : Bytes}
    (fits : Frame.encode (requestOf e past.length s.1).json = .ok request)
    (made : Frame.encode (config.response (requestOf e past.length s.1)).json = .ok response)
    (turn : Turn config e sends past later s past reused (.writing 0) none (net.channel.lane t)
      net.channel.nextId a)
    (line : Linked t e (net.channel.lane t) net.wires a false
      [UInt64.ofNat (past.length + 1)] []) :
    ∃ later, net.advanceLane? t = some later ∧
      Stands config t e sends later ∧ work t later < work t net := by
  have lane := Lane.step_wrote t net.channel.patience net.channel.nextId turn.held rfl fits
  have written : ((net.stepLane t (.wrote .written)).channel.lane t).sent.length =
      (net.channel.lane t).sent.length + 1 := by
    rw [Network.stepLane, Channel.lane_step_self, lane, List.length_append, List.length_singleton]
  have config_ := turn.books.config
  have delivered : ((net.stepLane t (.wrote .written)).schedule s.2
      (.deadline t (past.length + 1) false)).deliver t 0
        (Frame.payloadOf (requestOf e past.length s.1).json) = _ :=
    Network.deliver_alone (w := wire t [] false) (a := a)
      (by rw [config_]; exact sound) scene.agents turn.books.held line.live line.stopped line.wires
      rfl rfl (by rw [config_]; exact made)
  refine ⟨_, (advance_turn turn).trans (if_pos (by rw [written]; omega)), ?_⟩
  simp only [exchangeOf]
  rw [delivered]
  refine moved scene (.wrote .written) rfl rfl rfl rfl ?_ lane (nextId_step _ _ nofun) ?_ ?_
  · intro due mem
    rcases List.mem_append.mp mem with earlier | own
    · exact scene.timers due earlier
    · rw [List.mem_singleton.mp own]
      exact ⟨t, past.length + 1, false, rfl⟩
  · refine .asked past later s reused ⟨turn.split, ?_, turn.known, rfl⟩ response made ?_
    · refine { turn.books with sent := ?_, requests := ?_, uploads := ?_ }
      · rw [transmissionsOf_concat, ← turn.books.sent]
        rfl
      · rw [requestsOf_concat, ← turn.books.requests]
        rfl
      · rw [uploadsOf_concat, ← turn.books.uploads]
        rfl
    · refine ⟨line.slot, line.connections, rfl, line.accepted, ?_, ?_⟩
      · simp [requestOf, wire]
      · simp [MockAgent.serve, line.stopped, requestOf]
  · show laneWork _ + (net.timers ++ [_]).length < _
    simp only [laneWork, turn.held, exchangeOf, stageWork, Option.map_some, Option.getD_some,
      List.length_append, List.length_singleton, Option.isSome_none, Bool.false_eq_true, if_false]
    omega

theorem entry_alone {l : Lane} {c : Connection} (connections : l.connections = [c]) :
    l.connections[0]? = some c := by
  rw [connections]
  rfl

theorem received_moves (scene : Scene t e net a)
    (turn : Turn config e sends past later s (past ++ [s]) reused (.waiting 0) none
      (net.channel.lane t) net.channel.nextId a)
    {frame : Bytes}
    (made : Frame.encode (config.response (requestOf e past.length s.1)).json = .ok frame)
    (line : Linked t e (net.channel.lane t) net.wires a (s.1 == .halt)
      [UInt64.ofNat (past.length + 1)] frame) :
    ∃ later, net.advanceReader? (wire t frame (s.1 == .halt)) = some later ∧
      Stands config t e sends later ∧ work t later < work t net := by
  have front := Frame.front_ofPayload made []
  rw [List.append_nil] at front
  have lane := Lane.step_reply t net.channel.patience net.channel.nextId turn.held rfl rfl
    line.connections rfl rfl (MockConfig.response_id config (requestOf e past.length s.1))
  refine ⟨_, Network.advanceReader?_frame (entry_alone line.connections) rfl rfl front, ?_⟩
  · have emptied : (net.wires.map fun w =>
        if w.target == t && w.connection == 0 then { w with incoming := [] } else w) =
          [wire t [] (s.1 == .halt)] := by
      simp [line.wires, wire]
    refine moved scene (.received 0 _) rfl rfl scene.agents emptied scene.timers lane
      (nextId_step _ _ nofun) ?_ ?_
    · refine .answered past later s reused
        { turn with books := { turn.books with }, held := rfl } ?_
      unfold Handed
      by_cases halt : s.1 = .halt
      · rw [if_pos halt]
        refine ⟨_, ⟨rfl, rfl, by simp [halt], line.accepted, ?_⟩, line.slot⟩
        rw [line.live, halt]
        rfl
      · have going : (s.1 == .halt) = false := beq_false_of_ne halt
        rw [going] at line ⊢
        rw [if_neg halt]
        exact ⟨line.slot, rfl, rfl, line.accepted, line.live, line.stopped⟩
    · apply Nat.add_lt_add_right
      refine less_work turn.held rfl rfl ?_ ?_
      · rw [line.connections]
        rfl
      · simp [stageWork, exchangeOf]

theorem wake_moves (scene : Scene t e net a) (sound : config.Faultless)
    (last : s.1 = .halt → later = [])
    (turn : Turn config e sends past later s (past ++ [s]) reused (.waiting 0)
      (some (.ok (config.response (requestOf e past.length s.1)))) (net.channel.lane t)
      net.channel.nextId a)
    (line : Handed t e (net.channel.lane t) net.wires a s.1) :
    ∃ later, net.advanceLane? t = some later ∧
      Stands config t e sends later ∧ work t later < work t net := by
  refine ⟨net.stepLane t (.wake false), advance_turn turn, ?_⟩
  unfold Handed at line
  have verdict : Reply.judge s.1 (config.response (requestOf e past.length s.1)) =
      config.answer s.1 := MockConfig.judge_response sound (requestOf e past.length s.1)
  have finished := finishedOf_concat config e past s
  by_cases halt : s.1 = .halt
  · rw [if_pos halt] at line
    obtain ⟨c, line, slot⟩ := line
    obtain ⟨standing, log, lane⟩ := Lane.step_wake_halted t net.channel.patience
      net.channel.nextId turn.held rfl rfl rfl halt slot line.connections
    obtain rfl := last halt
    refine moved_alone scene (.wake false) lane (nextId_step _ _ nofun) ?_ ?_
    · rw [turn.split]
      refine .closed ?_ ⟨s, by simp, halt⟩ rfl ⟨_, { line with connections := rfl }⟩
      refine { turn.books with finished := ?_ }
      show (net.channel.lane t).finished ++
        [⟨past.length + 1, .send s.1 s.2, .answered .halted⟩] = _
      rw [finished, turn.books.finished, halt]
      rfl
    · simp only [laneWork, turn.held, line.connections, exchangeOf, stageWork, readerWork,
        Option.map_some, Option.map_none, Option.getD_some, Option.getD_none, List.map_cons,
        List.map_nil, Option.isSome_some, if_true]
      omega
  · rw [if_neg halt] at line
    obtain ⟨status, known⟩ : ∃ status, (net.channel.lane t).standing = some status := by
      cases standing : (net.channel.lane t).standing with
      | none =>
        have := turn.known
        rw [standing] at this
        cases this
      | some status => exact ⟨status, rfl⟩
    obtain ⟨standing, same, lane⟩ := Lane.step_wake_answered t net.channel.patience
      net.channel.nextId turn.held rfl rfl rfl halt known
    refine moved_alone scene (.wake false) lane (nextId_step _ _ nofun) ?_ ?_
    · refine .idle (past ++ [s]) later (by rw [turn.split]; simp) ?_ (same.trans turn.known) rfl
        (.inr ⟨by simp, { line with }⟩)
      refine { turn.books with finished := ?_ }
      show (net.channel.lane t).finished ++ [⟨past.length + 1, .send s.1 s.2, .ofAnswer
        (Reply.judge s.1 (config.response (requestOf e past.length s.1)))⟩] = _
      rw [finished, turn.books.finished, verdict]
    · simp only [laneWork, turn.held, exchangeOf, stageWork, Option.map_some, Option.map_none,
        Option.getD_some, Option.getD_none, Option.isSome_some, if_true]
      omega

/-- The reader of a connection that the agent has left comes to its end; nothing else changes. -/
theorem parted_moves (scene : Scene t e net a) (held : a.held = []) {c : Connection}
    (line : Parted t (net.channel.lane t) net.wires a c)
    (keep : ∀ (c' : Connection) (log : List LogEvent), c'.pending = [] →
      Phase config t e sends { net.channel.lane t with connections := [c'], log }
        net.channel.nextId net.wires a) :
    net.advanceReader? (wire t [] true) = none ∨
      ∃ later, net.advanceReader? (wire t [] true) = some later ∧
        Stands config t e sends later ∧ work t later < work t net := by
  have entry : (net.channel.lane (wire t [] true).target).connections[0]? = some c :=
    entry_alone line.connections
  cases reader : c.reader with
  | reading =>
    obtain ⟨ending, ours, stops⟩ := Network.advanceReader?_end entry reader rfl rfl
    obtain ⟨log, lane⟩ :=
      Lane.step_ended t net.channel.patience net.channel.nextId line.connections reader ours
    have unheard := Network.hangUp_alone (net.stepLane t (.ended 0 ending)) scene.agents held
      line.live line.wires rfl
    refine .inr ⟨net.stepLane t (.ended 0 ending), stops.trans (congrArg some unheard), ?_⟩
    refine moved_alone scene (.ended 0 ending) lane (nextId_step _ _ nofun)
      (keep _ _ line.pending) ?_
    simp only [laneWork, line.connections, List.map_cons, List.map_nil, List.sum_cons,
      List.sum_nil, readerWork, reader]
    omega
  | stopping =>
    have lane := Lane.step_drained t net.channel.patience net.channel.nextId line.connections
      reader line.pending
    refine .inr ⟨_, Network.advanceReader?_drain entry reader, ?_⟩
    refine moved_alone scene (.drained 0) lane (nextId_step _ _ nofun)
      (keep _ _ line.pending) ?_
    simp only [laneWork, line.connections, List.map_cons, List.map_nil, List.sum_cons,
      List.sum_nil, readerWork, reader]
    omega
  | stopped => exact .inl (Network.advanceReader?_stopped entry reader)

end Steps

/-- At most one of the commands is a halt, the last; every request fits into a frame, and so does
every response. -/
structure Admissible (config : MockConfig) (e : Endpoint) (sends : List Send) : Prop where
  last : ∀ s ∈ sends.dropLast, s.1 ≠ .halt
  fits (place : Nat) (s : Send) : sends[place]? = some s →
    (Frame.payloadOf (requestOf e place s.1).json).length ≤ Frame.maxPayload ∧
      (Frame.payloadOf (config.response (requestOf e place s.1)).json).length ≤ Frame.maxPayload

theorem Admissible.before {s : Send} (h : Admissible config e (sends ++ [s])) :
    Admissible config e sends := by
  have only := h.last
  rw [List.dropLast_concat] at only
  refine ⟨fun s mem => only s ((List.dropLast_sublist _).subset mem), fun place s at_ => ?_⟩
  exact h.fits place s (Channel.getElem?_append_of_some _ at_)

theorem encode_ok {message : Json} (small : (Frame.payloadOf message).length ≤ Frame.maxPayload) :
    ∃ frame, Frame.encode message = .ok frame :=
  ⟨_, Frame.ofPayload_eq_ok_iff.mpr ⟨small, rfl⟩⟩

/-- Everything that has come in has come to its end. -/
structure Settled (config : MockConfig) (t : Target) (e : Endpoint) (sends : List Send)
    (net : Network) (a : MockAgent) : Prop where
  books : Books config e sends sends sends [] (net.channel.lane t) net.channel.nextId a
  free : (net.channel.lane t).exchange = none
  accepted : a.connections = if sends = [] then 0 else 1

/-- The lane has a next step, with which the rehearsal goes on and has less to do, or a reader has
one, or everything has come to its end. -/
theorem lane_steps (sound : config.Faultless) (near : Network.hostKind e.host = .loopback)
    (fit : Admissible config e sends) (scene : Scene t e net a)
    (phase : Phase config t e sends (net.channel.lane t) net.channel.nextId net.wires a) :
    (∃ later, net.advanceLane? t = some later ∧
      Stands config t e sends later ∧ work t later < work t net) ∨
    (net.advanceLane? t = none ∧ ((∃ w ∈ net.wires, net.advanceReader? w ≠ none) ∨
      Settled config t e sends net a)) := by
  cases phase with
  | attaching calls queue finished sent number start free line =>
    exact .inl (attach_moves scene calls queue finished sent number start free line)
  | idle past later split books known free line =>
    cases later with
    | cons s later =>
      exact .inl (grant_moves scene split books known free (line.imp And.right And.right))
    | nil =>
      rw [List.append_nil] at split
      subst split
      refine .inr ⟨by simp [Network.advanceLane?, free, books.queue, queued], .inr ?_⟩
      refine ⟨books, free, ?_⟩
      rcases line with ⟨first, line⟩ | ⟨more, line⟩
      · rw [line.accepted, if_pos first]
      · rw [line.accepted, if_neg more]
  | ready past later s reused stage turn line =>
    left
    have here : sends[past.length]? = some s := by rw [turn.split]; simp
    obtain ⟨small, answer⟩ := fit.fits _ _ here
    cases line with
    | choosing line => exact choose_moves scene turn line
    | dialing line => exact dial_moves scene near turn line
    | entering line => exact enter_moves scene turn line
    | registering line => exact register_moves scene turn line
    | writing line =>
      obtain ⟨request, fits⟩ := encode_ok small
      obtain ⟨response, made⟩ := encode_ok answer
      exact write_moves scene sound fits made turn line
  | asked past later s reused turn frame made line =>
    obtain ⟨later, moved, _⟩ := received_moves scene turn made line
    refine .inr ⟨?_, .inl ⟨_, by rw [line.wires]; exact List.mem_singleton_self _, ?_⟩⟩
    · rw [advance_turn turn]
      simp [Network.advanceCall?, exchangeOf, isOpen_linked line]
    · rw [moved]
      exact Option.some_ne_none later
  | answered past later s reused turn line =>
    refine .inl (wake_moves scene sound (fun halt => ?_) turn line)
    by_contra more
    refine fit.last s ?_ halt
    rw [turn.split, List.dropLast_append_cons, List.dropLast_cons_of_ne_nil more]
    simp
  | closed books halted free line =>
    refine .inr ⟨by simp [Network.advanceLane?, free, books.queue, queued], .inr ⟨books, free, ?_⟩⟩
    obtain ⟨c, line⟩ := line
    obtain ⟨s, mem, _⟩ := halted
    rw [line.accepted, if_neg (List.ne_nil_of_mem mem)]

theorem reader_steps (scene : Scene t e net a)
    (phase : Phase config t e sends (net.channel.lane t) net.channel.nextId net.wires a) {w : Wire}
    (mem : w ∈ net.wires) :
    net.advanceReader? w = none ∨ ∃ later, net.advanceReader? w = some later ∧
      Stands config t e sends later ∧ work t later < work t net := by
  have waits {pending : List RequestId}
      (line : Linked t e (net.channel.lane t) net.wires a false pending []) :
      net.advanceReader? w = none := by
    rw [line.wires, List.mem_singleton] at mem
    subst mem
    exact Network.advanceReader?_waits (entry_alone line.connections) rfl rfl rfl rfl
  have untouched (line : Untouched (net.channel.lane t) net.wires a) :
      net.advanceReader? w = none := by
    rw [line.wires] at mem
    cases mem
  cases phase with
  | attaching calls queue finished sent number start free line => exact .inl (untouched line)
  | idle past later split books known free line =>
    exact .inl (line.elim (fun line => untouched line.2) fun line => waits line.2)
  | ready past later s reused stage turn line =>
    left
    cases line with
    | choosing line => exact line.elim untouched waits
    | dialing line => exact untouched line
    | entering line | registering line | writing line => exact waits line
  | asked past later s reused turn frame made line =>
    have only := mem
    rw [line.wires, List.mem_singleton] at only
    rw [only]
    exact .inr (received_moves scene turn made line)
  | answered past later s reused turn line =>
    unfold Handed at line
    split at line
    next halt =>
      obtain ⟨c, line, slot⟩ := line
      rw [line.wires, List.mem_singleton] at mem
      rw [mem]
      refine parted_moves scene turn.books.held line fun c' log drained => ?_
      refine .answered past later s reused { turn with books := { turn.books with } } ?_
      rw [Handed, if_pos halt]
      exact ⟨c', { line with connections := rfl, pending := drained }, slot⟩
    next => exact .inl (waits line)
  | closed books halted free line =>
    obtain ⟨c, line⟩ := line
    rw [line.wires, List.mem_singleton] at mem
    rw [mem]
    refine parted_moves scene books.held line fun c' log drained => ?_
    exact .closed { books with } halted free
      ⟨c', { line with connections := rfl, pending := drained }⟩

theorem settled_of_rest (sound : config.Faultless) (near : Network.hostKind e.host = .loopback)
    (fit : Admissible config e sends) (scene : Scene t e net a)
    (phase : Phase config t e sends (net.channel.lane t) net.channel.nextId net.wires a)
    (rest : net.advance? = none) : Settled config t e sends net a := by
  obtain ⟨lanes, readers⟩ := Network.at_rest rest
  rcases lane_steps sound near fit scene phase with
    ⟨later, moved, _⟩ | ⟨_, ⟨w, mem, moved⟩ | settled⟩
  · rw [lanes t] at moved
    cases moved
  · exact absurd (readers w mem) moved
  · exact settled

/-- A deadline that passes means nothing to a lane that nobody holds. -/
theorem fire_deadline {u : Target} {ticket : Nat} {second : Bool}
    (free : (net.channel.lane u).exchange = none) :
    net.fire (.deadline u ticket second) = net := by
  simp [Network.fire, free]

theorem clock_moves (scene : Scene t e net a)
    (phase : Phase config t e sends (net.channel.lane t) net.channel.nextId net.wires a)
    (free : (net.channel.lane t).exchange = none) {limit time : Nat} {due : Due}
    {rest : List (Nat × Due)}
    (first : Network.nextTimer? limit net.timers = some ((time, due), rest)) {later : Network}
    (fired : later = ({ net with now := max net.now time, timers := rest } : Network).fire due) :
    Stands config t e sends later ∧ work t later < work t net := by
  obtain ⟨i, at_, rfl⟩ := Network.nextTimer?_eq first
  obtain ⟨bound, _⟩ := List.getElem?_eq_some_iff.mp at_
  obtain ⟨u, ticket, second, rfl⟩ : ∃ u ticket second, due = .deadline u ticket second :=
    scene.timers _ (List.mem_of_getElem? at_)
  have idle : (net.channel.lane u).exchange = none := by
    by_cases own : u = t
    · rw [own]
      exact free
    · rw [scene.others u own]
  obtain rfl := fired.trans (fire_deadline idle)
  refine ⟨⟨a, ⟨scene.others, scene.reach, scene.agents, fun d mem => ?_⟩, phase⟩, ?_⟩
  · exact scene.timers d (List.mem_of_mem_eraseIdx mem)
  · apply Nat.add_lt_add_left
    show (net.timers.eraseIdx i).length < _
    rw [List.length_eraseIdx_of_lt bound]
    omega

theorem next_moves (sound : config.Faultless) (near : Network.hostKind e.host = .loopback)
    (fit : Admissible config e sends) (stands : Stands config t e sends net) {later : Network}
    (step : Network.Next net later) :
    Stands config t e sends later ∧ work t later < work t net := by
  obtain ⟨a, scene, phase⟩ := stands
  cases step with
  | lane u moved =>
    by_cases own : u = t
    · subst own
      rcases lane_steps sound near fit scene phase with ⟨found, eq, on⟩ | ⟨none, _⟩
      · rw [eq] at moved
        cases moved
        exact on
      · rw [none] at moved
        cases moved
    · rw [Network.advanceLane?_untouched (scene.others u own)] at moved
      cases moved
  | reader mem moved =>
    rcases reader_steps scene phase mem with none | ⟨found, eq, on⟩
    · rw [none] at moved
      cases moved
    · rw [eq] at moved
      cases moved
      exact on
  | scripted moved =>
    simp [Network.advanceScripted?, Network.kind?, scene.agents] at moved
  | clock idle first =>
    have settled := settled_of_rest sound near fit scene phase idle
    exact clock_moves scene phase settled.free first rfl

theorem Books.call {begun asked ended later : List Send} {l : Lane} {id : RequestId}
    (books : Books config e begun asked ended later l id a) (s : Send) :
    Books config e begun asked ended (later ++ [s])
      { l with calls := l.calls + 1, queue := l.queue ++ [(l.calls, .send s.1 s.2)] } id a := by
  refine { books with calls := ?_, queue := ?_ }
  · show l.calls + 1 = _
    rw [books.calls, List.length_append, List.length_singleton]
    omega
  · show l.queue ++ _ = _
    rw [queued_concat, books.queue, books.calls, Nat.add_right_comm]

theorem Phase.call {l : Lane} {id : RequestId} {wires : List Wire} {s : Send}
    (fit : Admissible config e (sends ++ [s])) (phase : Phase config t e sends l id wires a) :
    Phase config t e (sends ++ [s])
      { l with calls := l.calls + 1, queue := l.queue ++ [(l.calls, .send s.1 s.2)] } id wires
      a := by
  cases phase with
  | attaching calls queue finished sent number start free line =>
    refine .attaching ?_ ?_ finished sent number start free { line with }
    · show l.calls + 1 = _
      rw [calls, List.length_append, List.length_singleton]
    · show l.queue ++ _ = _
      rw [queue, calls, queued_concat, Nat.add_comm 1]
      rfl
  | idle past later split books known free line =>
    refine .idle past (later ++ [s]) (by rw [split, List.append_assoc]) (books.call s) known free ?_
    exact line.imp (And.imp_right fun line => { line with })
      (And.imp_right fun line => { line with })
  | ready past later s' reused stage turn line =>
    refine .ready past (later ++ [s]) s' reused stage
      { turn with split := by rw [turn.split]; simp, books := turn.books.call s } ?_
    cases line with
    | choosing line =>
      exact .choosing (line.imp (fun line => { line with }) fun line => { line with })
    | dialing line => exact .dialing { line with }
    | entering line => exact .entering { line with }
    | registering line => exact .registering { line with }
    | writing line => exact .writing { line with }
  | asked past later s' reused turn frame made line =>
    exact .asked past (later ++ [s]) s' reused
      { turn with split := by rw [turn.split]; simp, books := turn.books.call s } frame made
      { line with }
  | answered past later s' reused turn line =>
    refine .answered past (later ++ [s]) s' reused
      { turn with split := by rw [turn.split]; simp, books := turn.books.call s } ?_
    unfold Handed at line ⊢
    split
    next halt =>
      rw [if_pos halt] at line
      obtain ⟨c, line, slot⟩ := line
      exact ⟨c, { line with }, slot⟩
    next going =>
      rw [if_neg going] at line
      exact { line with }
  | closed books halted free line =>
    obtain ⟨s', mem, halt⟩ := halted
    have only := fit.last s'
    rw [List.dropLast_concat] at only
    exact absurd halt (only mem)

theorem call_stands (attachable : t.isFileSystem = false) {s : Send}
    (fit : Admissible config e (sends ++ [s])) (stands : Stands config t e sends net) :
    Stands config t e (sends ++ [s]) (net.stepLane t (.call (.send s.1 s.2))) := by
  obtain ⟨a, scene, phase⟩ := stands
  have lane := Lane.step_call t net.channel.patience net.channel.nextId (net.channel.lane t)
    attachable (.send s.1 s.2)
  refine ⟨a, ⟨fun u other => ?_, scene.reach, scene.agents, scene.timers⟩, ?_⟩
  · exact (Channel.lane_step_of_ne _ _ other).trans (scene.others u other)
  · have number := nextId_step (t := t) (.call (.send s.1 s.2)) net.channel nofun
    have phase := phase.call fit
    rw [← number, ← lane, ← Channel.lane_step_self] at phase
    exact phase

theorem start_stands (attachable : t.isFileSystem = false) (patience : Duration) :
    Stands config t e [] (({
        channel := { patience }
        reach := .loopback
        agents := [⟨e.port, .mock (.start config)⟩] } : Network).stepLane t
      (.call (.attach e))) := by
  have lane := Lane.step_call t patience 1 {} attachable
    (.attach e)
  refine ⟨.start config, ⟨fun u other => ?_, rfl, rfl, nofun⟩, ?_⟩
  · exact Channel.lane_step_of_ne _ _ other
  · rw [Network.stepLane, Channel.lane_step_self]
    show Phase config t e [] (Lane.step t patience 1 {} (.call (.attach e))) 1 [] (.start config)
    rw [lane]
    exact .attaching rfl rfl rfl rfl rfl rfl rfl ⟨rfl, rfl, rfl, rfl, rfl, rfl⟩

theorem stands_of_rehearsed (attachable : t.isFileSystem = false) (sound : config.Faultless)
    (near : Network.hostKind e.host = .loopback) {patience : Duration}
    (run : Network.Rehearsed config patience t e sends net) (fit : Admissible config e sends) :
    Stands config t e sends net := by
  induction run with
  | attach => exact start_stands attachable patience
  | call run s ih => exact call_stands attachable fit (ih fit.before)
  | next run step ih => exact (next_moves sound near fit (ih fit) step).1

theorem finishedOf_prefix {ended : List Send} (h : ended <+: sends) :
    finishedOf config e ended <+: finishedOf config e sends := by
  obtain ⟨later, rfl⟩ := h
  rw [finishedOf, finishedOf, List.mapIdx_append]
  exact ⟨_, rfl⟩

/-- What is true of the accounts at any moment. -/
structure Accounts (config : MockConfig) (e : Endpoint) (sends : List Send) (l : Lane)
    (a : MockAgent) (asked : List Send) : Prop where
  within : asked <+: sends
  finished : l.finished <+: finishedOf config e sends
  sent : l.sent = transmissionsOf e asked
  requests : a.requests = requestsOf e asked
  uploads : a.uploads = uploadsOf asked
  accepted : a.connections ≤ 1

theorem Books.accounts {begun asked ended later : List Send} {l : Lane} {id : RequestId}
    (books : Books config e begun asked ended later l id a) (asked_ : asked <+: sends)
    (ended_ : ended <+: sends) (accepted : a.connections ≤ 1) :
    Accounts config e sends l a asked :=
  ⟨asked_, by rw [books.finished]; exact finishedOf_prefix ended_, books.sent, books.requests,
    books.uploads, accepted⟩

theorem Phase.accounts {l : Lane} {id : RequestId} {wires : List Wire}
    (phase : Phase config t e sends l id wires a) : ∃ asked, Accounts config e sends l a asked := by
  have linked {halted : Bool} {pending : List RequestId} {incoming : Bytes}
      (line : Linked t e l wires a halted pending incoming) : a.connections ≤ 1 :=
    line.accepted.le
  have untouched (line : Untouched l wires a) : a.connections ≤ 1 := by
    rw [line.accepted]
    exact Nat.zero_le 1
  have before {past later : List Send} {s : Send} (split : sends = past ++ s :: later) :
      past <+: sends ∧ past ++ [s] <+: sends := by
    rw [split]
    exact ⟨List.prefix_append _ _, later, by simp⟩
  cases phase with
  | attaching calls queue finished sent number start free line =>
    refine ⟨[], List.nil_prefix, ?_, sent, ?_, ?_, untouched line⟩
    · rw [finished]
      exact List.nil_prefix
    · rw [start]
      rfl
    · rw [start]
      rfl
  | idle past later split books known free line =>
    have within : past <+: sends := by rw [split]; exact List.prefix_append _ _
    exact ⟨past, books.accounts within within
      (line.elim (fun line => untouched line.2) fun line => linked line.2)⟩
  | ready past later s reused stage turn line =>
    obtain ⟨within, _⟩ := before turn.split
    refine ⟨past, turn.books.accounts within within ?_⟩
    cases line with
    | choosing line => exact line.elim untouched linked
    | dialing line => exact untouched line
    | entering line | registering line | writing line => exact linked line
  | asked past later s reused turn frame made line =>
    obtain ⟨within, next⟩ := before turn.split
    exact ⟨past ++ [s], turn.books.accounts next within (linked line)⟩
  | answered past later s reused turn line =>
    obtain ⟨within, next⟩ := before turn.split
    refine ⟨past ++ [s], turn.books.accounts next within ?_⟩
    unfold Handed at line
    split at line
    next =>
      obtain ⟨c, line, _⟩ := line
      exact line.accepted.le
    next => exact linked line
  | closed books halted free line =>
    obtain ⟨c, line⟩ := line
    exact ⟨sends, books.accounts (List.prefix_refl _) (List.prefix_refl _) line.accepted.le⟩

theorem ids_increase {asked : List Send} (few : asked.length < UInt64.size) :
    ((requestsOf e asked).map (·.id)).Pairwise (· < ·) := by
  rw [List.pairwise_iff_getElem]
  intro i j hi hj less
  simp only [requestsOf, List.length_map, List.length_mapIdx] at hi hj
  simp only [requestsOf, List.getElem_map, List.getElem_mapIdx, requestOf]
  rw [UInt64.lt_iff_toNat_lt, UInt64.toNat_ofNat_of_lt' (by omega),
    UInt64.toNat_ofNat_of_lt' (by omega)]
  omega

theorem comes_to_rest (sound : config.Faultless) (near : Network.hostKind e.host = .loopback)
    (fit : Admissible config e sends) (stands : Stands config t e sends net) :
    Acc (fun later now => Network.Next now later) net := by
  -- on the work that is left, since every step leaves less of it
  induction work_ : work t net using Nat.strongRecOn generalizing net with
  | ind n ih =>
    refine ⟨_, fun later step => ?_⟩
    obtain ⟨stands, less⟩ := next_moves sound near fit stands step
    exact ih _ (by rw [← work_]; exact less) stands rfl

end Rehearsal

open Rehearsal in
/-- Whatever is sent to an agent without faults is answered as its table says: each command once, in
order, with the endpoint's host and port and with increasing numbers, over one connection; and the
agent keeps just the bodies that it could decode. Callers and readers take their steps in any order,
but nobody is slow: the agent does all of its part as soon as a request has been written, and no
timer fires while anybody can take a step (`Network.Next.clock`). -/
theorem client_and_agent_agree {config : MockConfig} {t : Target} {e : Endpoint}
    {patience : Duration} {sends : List Send} {net : Network} (attachable : t.isFileSystem = false)
    (sound : config.Faultless) (near : Network.hostKind e.host = .loopback)
    (fit : Admissible config e sends) (run : Network.Rehearsed config patience t e sends net) :
    Acc (fun later now => Network.Next now later) net ∧
    ∃ a asked, net.agents = [⟨e.port, .mock a⟩] ∧
      (net.channel.lane t).finished <+: finishedOf config e sends ∧
      asked <+: sends ∧ a.requests = requestsOf e asked ∧ a.uploads = uploadsOf asked ∧
      (net.channel.lane t).sent = transmissionsOf e asked ∧ a.connections ≤ 1 ∧
      (asked.length < UInt64.size → (a.requests.map (·.id)).Pairwise (· < ·)) ∧
      (net.advance? = none →
        (net.channel.lane t).finished = finishedOf config e sends ∧ asked = sends ∧
          a.connections = if sends = [] then 0 else 1) := by
  have stands := stands_of_rehearsed attachable sound near run fit
  refine ⟨comes_to_rest sound near fit stands, ?_⟩
  obtain ⟨a, scene, phase⟩ := stands
  by_cases rest : net.advance? = none
  · have settled := settled_of_rest sound near fit scene phase rest
    have books := settled.books
    refine ⟨a, sends, scene.agents, books.finished ▸ List.prefix_refl _, List.prefix_refl _,
      books.requests, books.uploads, books.sent, ?_, ?_,
      fun _ => ⟨books.finished, rfl, settled.accepted⟩⟩
    · rw [settled.accepted]
      split <;> omega
    · rw [books.requests]
      exact ids_increase
  · obtain ⟨asked, accounts⟩ := phase.accounts
    refine ⟨a, asked, scene.agents, accounts.finished, accounts.within, accounts.requests,
      accounts.uploads, accounts.sent, accounts.accepted, ?_, fun h => absurd h rest⟩
    rw [accounts.requests]
    exact ids_increase

namespace Rehearsal

def visited : MockConfig :=
  { classes := [⟨"p.A", none, none⟩], bytecode := [("p.A", [202])] }

/-- A visit: what there is, what there is not, a body and one that is none, and good-bye. -/
def visit : List Send :=
  [(.listClasses, ⟨9⟩), (.fetchBytes "p.A", ⟨9⟩), (.initClass "p.B", ⟨9⟩),
    (.uploadClass "p.A" "AQ==", ⟨9⟩), (.uploadClass "p.A" "A", ⟨9⟩), (.halt, ⟨9⟩)]

theorem visit_admissible : Admissible visited ⟨"localhost", 6001⟩ visit := by
  refine ⟨by decide, fun place s at_ => ?_⟩
  have small : ∀ place : Fin visit.length,
      (Frame.payloadOf (requestOf ⟨"localhost", 6001⟩ place visit[place].1).json).length ≤
        Frame.maxPayload ∧
      (Frame.payloadOf (visited.response (requestOf ⟨"localhost", 6001⟩ place
        visit[place].1)).json).length ≤ Frame.maxPayload := by
    decide +kernel
  obtain ⟨bound, rfl⟩ := List.getElem?_eq_some_iff.mp at_
  exact small ⟨place, bound⟩

end Rehearsal

open Rehearsal in
theorem client_and_agent_agree_visit :
    ∃ net a, Network.Rehearsed visited ⟨1⟩ (.process 7) ⟨"localhost", 6001⟩ visit net ∧
      net.agents = [⟨6001, .mock a⟩] ∧
      (net.channel.lane (.process 7)).finished.map (·.outcome) =
        [.attached, .answered (.classes [⟨"p.A", none, none⟩]), .answered (.bytes ⟨⟨"p.A"⟩, [202]⟩),
          .failed (.agent .initClass "class not found: p.B"),
          .answered (.ack (some "redefined p.A")),
          .failed (.agent .uploadClass "invalid base64 body: Invalid input length: 1"),
          .answered .halted] ∧
      a.requests.map (·.id) = [1, 2, 3, 4, 5, 6] ∧ a.uploads = [⟨.uploadClass, "p.A", [1]⟩] ∧
      a.connections = 1 := by
  have sound : visited.Faultless := ⟨fun action => by cases action <;> rfl, rfl, rfl, rfl, rfl⟩
  have near : Network.hostKind "localhost" = .loopback := by decide
  have called : ∃ net, Network.Rehearsed visited ⟨1⟩ (.process 7) ⟨"localhost", 6001⟩ visit net :=
    ⟨_, .call (.call (.call (.call (.call (.call .attach _) _) _) _) _) _⟩
  obtain ⟨net, run⟩ := called
  obtain ⟨net, run, rest⟩ :=
    run.to_rest (client_and_agent_agree rfl sound near visit_admissible run).1
  obtain ⟨_, a, asked, agents, _, _, requests, uploads, _, _, _, all⟩ :=
    client_and_agent_agree rfl sound near visit_admissible run
  obtain ⟨finished, rfl, connections⟩ := all rest
  refine ⟨net, a, run, agents, ?_, ?_, ?_, connections⟩
  · rw [finished]
    decide +kernel
  · rw [requests]
    rfl
  · rw [uploads]
    decide +kernel

end ClassSwap
