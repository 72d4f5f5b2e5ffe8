import ClassSwap.Agent.Mock

namespace ClassSwap

/-- What tasks do to the things they have in common, or to a connection. Requests are known by
their numbers. -/
inductive TaskAct where
  | connected
  | counted (number : Nat)
  /-- The count that a request made is held against the largest one so far. -/
  | measured (number count : Nat)
  | noted (number : Nat) (r : Request)
  | dropped (number : Nat) (action : Action)
  | kept (number : Nat) (action : Action)
  | uploaded (number : Nat) (upload : MockUpload)
  | held (reply : HeldReply) (delay : Duration)
  | ended (number : Nat)
  | halted
  | wrote (number connection : Nat) (bytes : Bytes)
  /-- The rest of a reply, or all of it, is not written. -/
  | gaveUp (number : Nat)
  | closed (connection : Nat)
  deriving DecidableEq, Repr

inductive TaskStage where
  | measuring
  | noting
  | checking
  /-- It is to be dropped, and ends without a reply. -/
  | dropping
  | leaving
  | uploading (upload : MockUpload)
  /-- Its reply is there, to be sent or to be held back. -/
  | answering
  | waiting
  | halting
  /-- It waits for its turn to write. -/
  | replying
  | writing (rest : Bytes)
  | finished
  deriving DecidableEq, Repr

structure MockTask where
  connection : Nat
  request : Request
  /-- How many requests there were when this one was counted, itself among them. -/
  count : Nat
  stage : TaskStage := .measuring
  deriving DecidableEq, Repr

/-- The agent with a task for each request, by number, and all that has been done. -/
structure MockTasks where
  agent : MockAgent
  tasks : List MockTask := []
  log : List TaskAct := []

inductive TaskEvent where
  | accepted
  | received (connection : Nat) (payload : Bytes)
  | goesOn (number : Nat)
  | due (number : Nat)
  | abandoned (number : Nat)
  /-- Bytes of a reply are taken, one at least. -/
  | written (number more : Nat)
  | failed (number : Nat)
  | lost (connection : Nat)
  | stopped
  deriving DecidableEq, Repr

def MockAgent.after (a : MockAgent) : TaskAct → MockAgent
  | .connected => { a with connections := a.connections + 1, live := a.live ++ [a.connections] }
  | .counted _ => { a with inFlight := a.inFlight + 1 }
  | .measured _ count => { a with maxInFlight := max a.maxInFlight count }
  | .noted _ r => { a with requests := a.requests ++ [r] }
  | .dropped _ action => { a with spent := a.spent ++ [action] }
  | .uploaded _ upload => { a with uploads := a.uploads ++ [upload] }
  | .held reply _ => { a with held := a.held ++ [reply] }
  | .ended number => { a.finish with held := a.held.filter (·.number != number) }
  | .halted => { a with halted := true }
  | .closed connection => a.hangUp connection
  | .kept .. | .wrote .. | .gaveUp _ => a

namespace MockTask

variable (config : MockConfig) (number : Nat) (t : MockTask)

def action : Action := t.request.command.action

def delay? : Option Duration := config.delay? t.action

def reply : HeldReply :=
  ⟨number, t.connection, config.payload t.request, t.request.command == .halt⟩

/-- The frame of the reply; one that is too large is none. -/
def frame? : Option Bytes := (Frame.ofPayload (config.payload t.request)).toOption

def afterCheck : TaskStage :=
  match config.upload? t.request with
  | some upload => .uploading upload
  | none => .answering

def afterEnd : TaskStage := if t.request.command == .halt then .halting else .replying

/-- Whether the task that reads the connection is still busy with the request. -/
def occupies : Bool :=
  match t.stage with
  | .waiting | .finished => false
  | .halting | .replying | .writing _ => (t.delay? config).isNone
  | _ => true

def isWriting : Bool :=
  match t.stage with
  | .writing _ => true
  | _ => false

/-- The next step, unless something has to happen first. -/
def next? (drops : Bool) : Option (TaskStage × List TaskAct) :=
  match t.stage with
  | .measuring => some (.noting, [.measured number t.count])
  | .noting => some (.checking, [.noted number t.request])
  | .checking =>
    if drops then some (.dropping, [.dropped number t.action])
    else some (t.afterCheck config, [.kept number t.action])
  | .dropping => some (.leaving, [.ended number])
  | .leaving => some (.finished, [.closed t.connection])
  | .uploading upload => some (.answering, [.uploaded number upload])
  | .answering =>
    match t.delay? config with
    | some delay => some (.waiting, [.held (t.reply config number) delay])
    | none => some (t.afterEnd, [.ended number])
  | .halting => some (.replying, [.halted])
  | .waiting | .replying | .writing _ | .finished => none

def due? : Option (TaskStage × List TaskAct) :=
  match t.stage with
  | .waiting => some (t.afterEnd, [.ended number])
  | _ => none

def abandon? (halted : Bool) : Option (TaskStage × List TaskAct) :=
  match t.stage with
  | .waiting => if halted then some (.finished, [.ended number, .gaveUp number]) else none
  | _ => none

/-- What is to be written next; the first byte has to wait until the connection is free. -/
def unwritten? (free : Bool) : Option Bytes :=
  match t.stage with
  | .replying => if free then t.frame? config else none
  | .writing rest => some rest
  | _ => none

def write? (free : Bool) (more : Nat) : Option (TaskStage × List TaskAct) :=
  (t.unwritten? config free).map fun rest =>
    (if rest.length ≤ more + 1 then .finished else .writing (rest.drop (more + 1)),
      [.wrote number t.connection (rest.take (more + 1))])

def fail? : Option (TaskStage × List TaskAct) :=
  match t.stage with
  | .replying | .writing _ => some (.finished, [.gaveUp number])
  | _ => none

end MockTask

namespace MockTasks

def start (config : MockConfig) : MockTasks := { agent := .start config }

/-- Whether a frame can be read from a connection, or its end be noticed. -/
def listens (s : MockTasks) (connection : Nat) : Bool :=
  s.agent.live.contains connection &&
    !s.tasks.any fun t => t.connection == connection && t.occupies s.agent.config

/-- Whether a reply can be begun on a connection: it is open, and nobody else writes. -/
def isFree (s : MockTasks) (connection : Nat) : Bool :=
  s.agent.live.contains connection &&
    !s.tasks.any fun t => t.connection == connection && t.isWriting

def perform (s : MockTasks) (acts : List TaskAct) : MockTasks :=
  { s with agent := acts.foldl .after s.agent, log := s.log ++ acts }

/-- A request takes a step, if it can. -/
def move (s : MockTasks) (number : Nat) (f : MockTask → Option (TaskStage × List TaskAct)) :
    MockTasks :=
  match s.tasks[number]? with
  | none => s
  | some t =>
    match f t with
    | none => s
    | some (stage, acts) => { s with tasks := s.tasks.set number { t with stage } }.perform acts

def begin (s : MockTasks) (connection : Nat) (request : Request) : MockTasks :=
  let t : MockTask := { connection, request, count := s.agent.inFlight + 1 }
  { s with tasks := s.tasks ++ [t] }.perform [.counted s.tasks.length]

def received (s : MockTasks) (connection : Nat) (payload : Bytes) : MockTasks :=
  match Frame.decode Request.read payload with
  | .error _ => s.perform [.closed connection]
  | .ok r => s.begin connection r

/-- One step of the agent or of one of its tasks; an event that is not possible changes nothing. -/
def step (s : MockTasks) : TaskEvent → MockTasks
  | .accepted => s.perform [.connected]
  | .received connection payload =>
    if s.listens connection then s.received connection payload else s
  | .goesOn number =>
    s.move number fun t => t.next? s.agent.config number (s.agent.drops t.action)
  | .due number => s.move number fun t => t.due? number
  | .abandoned number => s.move number fun t => t.abandon? number s.agent.halted
  | .written number more =>
    s.move number fun t => t.write? s.agent.config number (s.isFree t.connection) more
  | .failed number => s.move number fun t => t.fail? number
  | .lost connection => if s.listens connection then s.perform [.closed connection] else s
  | .stopped => s.perform [.halted]

def run (s : MockTasks) (events : List TaskEvent) : MockTasks := events.foldl step s

end MockTasks

end ClassSwap
