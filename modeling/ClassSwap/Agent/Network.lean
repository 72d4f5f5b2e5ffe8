import ClassSwap.Address
import ClassSwap.Agent.Mock
import ClassSwap.Agent.Scripted
import ClassSwap.Channel

namespace ClassSwap

inductive Reach where
  | loopback
  | nothing
  deriving DecidableEq, Repr

inductive AgentKind where
  | mock (a : MockAgent)
  | scripted (a : ScriptedAgent)

structure AgentServer where
  port : UInt16
  kind : AgentKind

/-- A connection between a lane of the channel and an agent: its number on either side, and the
bytes on their way to the lane. -/
structure Wire where
  target : Target
  connection : Nat
  agent : Nat
  peer : Nat
  incoming : Bytes := []
  closedByAgent : Bool := false

inductive Due where
  /-- The time of a request is over. -/
  | deadline (target : Target) (ticket : Nat) (second : Bool)
  | mock (agent : Nat) (number : Nat)
  | scripted (agent : Nat) (connection : Nat)

structure Network where
  channel : Channel
  reach : Reach
  agents : List AgentServer := []
  wires : List Wire := []
  /-- The time, in nanoseconds. -/
  now : Nat := 0
  timers : List (Nat × Due) := []

namespace Network

/-- The state of a name that is to be connected to. -/
inductive HostKind where
  | invalid
  | loopback
  | elsewhere
  | unknown
  deriving DecidableEq, Repr

def hostKind (host : String) : HostKind :=
  if host.toList.contains '\x00' then .invalid
  else
    match Address.ofText? host.toList with
    | some (.v4 127 ..) => .loopback
    | some _ => .elsewhere
    | none => if host == "localhost" then .loopback else .unknown

def listens (s : AgentServer) : Bool :=
  match s.kind with
  | .mock a => !a.halted
  | .scripted _ => true

def agentOn? (net : Network) (port : UInt16) : Option Nat :=
  net.agents.findIdx? fun s => s.port == port && listens s

/-- How an attempt to connect ends, and the agent it leads to. -/
def connect (net : Network) (host : String) (port : UInt16) : Dialing × Option Nat :=
  let failed (e : OsError) : Dialing × Option Nat := (.failed e.message, none)
  match hostKind host, net.reach with
  | .invalid, _ => failed .nulInName
  | .unknown, _ => failed .lookupFailed
  | .loopback, .loopback =>
    match net.agentOn? port with
    | some i => (.connected, some i)
    | none => (.refused, none)
  | _, _ => failed .networkUnreachable

def kind? (net : Network) (i : Nat) : Option AgentKind := net.agents[i]?.map (·.kind)

def updateAgent (net : Network) (i : Nat) (kind : AgentKind) : Network :=
  { net with agents := net.agents.modify i fun s => { s with kind } }

def updateWires (net : Network) (p : Wire → Bool) (f : Wire → Wire) : Network :=
  { net with wires := net.wires.map fun w => if p w then f w else w }

/-- Bytes from an agent set out for the lane at the other end. -/
def transmit (net : Network) (agent peer : Nat) (bytes : Bytes) : Network :=
  net.updateWires (fun w => w.agent == agent && w.peer == peer) fun w =>
    { w with incoming := w.incoming ++ bytes }

def closePeer (net : Network) (agent peer : Nat) : Network :=
  net.updateWires (fun w => w.agent == agent && w.peer == peer) fun w =>
    { w with closedByAgent := true }

def schedule (net : Network) (delay : Duration) (due : Due) : Network :=
  { net with timers := net.timers ++ [(net.now + delay.nanos, due)] }

def applyMock (i : Nat) (net : Network) : MockAct → Network
  | .began _ | .ended _ => net
  | .wrote connection _ payload =>
    match Frame.ofPayload payload with
    | .ok frame => net.transmit i connection frame
    | .error _ => net.closePeer i connection
  | .held number delay => net.schedule delay (.mock i number)
  | .closed connection => net.closePeer i connection
  | .halted => net

/-- The ends of everything that an agent still has under way when it halts. -/
def shutdownEvents (a : MockAgent) : List MockEvent :=
  if a.halted then a.held.map (fun h => .abandoned h.number) ++ a.live.map .lost else []

def stepMock (net : Network) (i : Nat) (a : MockAgent) (events : List MockEvent) : Network :=
  let (a, acts) := events.foldl (fun (a, acts) e =>
    let (a, more) := a.step e
    (a, acts ++ more)) (a, [])
  acts.foldl (applyMock i) (net.updateAgent i (.mock a))

/-- Lets a mock agent react to an event, and clear up if it has halted. -/
def reactMock (net : Network) (i : Nat) (a : MockAgent) (e : MockEvent) : Network :=
  let net := net.stepMock i a [e]
  match net.kind? i with
  | some (.mock a) => net.stepMock i a (shutdownEvents a)
  | _ => net

def applyScripted (i : Nat) (net : Network) : ScriptedAct → Network
  | .wrote connection bytes => net.transmit i connection bytes
  | .sleeps connection time => net.schedule time (.scripted i connection)
  | .closed connection => net.closePeer i connection

/-- Something that a scripted agent does now, if there is anything. -/
def advanceScripted? (net : Network) : Option Network :=
  (List.range net.agents.length).findSome? fun i =>
    match net.kind? i with
    | some (.scripted a) =>
      (List.range a.connections.length).findSome? fun n =>
        (a.advance? n).map fun (a, acts) =>
          acts.foldl (applyScripted i) (net.updateAgent i (.scripted a))
    | _ => none

def accept (net : Network) (i : Nat) (t : Target) (connection : Nat) : Network :=
  match net.kind? i with
  | some (.mock a) =>
    let wire : Wire := { target := t, connection, agent := i, peer := a.connections }
    { net with wires := net.wires ++ [wire] }.reactMock i a .accepted
  | some (.scripted a) =>
    let wire : Wire := { target := t, connection, agent := i, peer := a.connections.length }
    { net with wires := net.wires ++ [wire] }.updateAgent i (.scripted a.accept)
  | none => net

/-- A frame from a lane arrives at the agent at the other end. -/
def deliver (net : Network) (t : Target) (connection : Nat) (payload : Bytes) : Network :=
  match net.wires.find? fun w => w.target == t && w.connection == connection with
  | none => net
  | some w =>
    match net.kind? w.agent with
    | some (.mock a) => net.reactMock w.agent a (.received w.peer payload)
    | some (.scripted a) =>
      net.updateAgent w.agent (.scripted (a.deliver w.peer payload))
    | none => net

def hangUp (net : Network) (t : Target) (connection : Nat) : Network :=
  match net.wires.find? fun w => w.target == t && w.connection == connection with
  | none => net
  | some w =>
    match net.kind? w.agent with
    | some (.mock a) => net.reactMock w.agent a (.lost w.peer)
    | _ => net

def stepLane (net : Network) (t : Target) (e : LaneEvent) : Network :=
  { net with channel := net.channel.step t e }

/-- The next step of the call that holds a lane, if it can take one now. -/
def advanceCall? (net : Network) (t : Target) (x : Exchange) : Option Network :=
  match x.stage with
  | .choosing => some (net.stepLane t .choose)
  | .dialing =>
    let (result, agent) := net.connect x.request.host x.request.port
    let connection := (net.channel.lane t).connections.length
    let net := net.stepLane t (.dialed result)
    match agent with
    | some i => some (net.accept i t connection)
    | none => some net
  | .entering _ => some (net.stepLane t .enter)
  | .registering _ => some (net.stepLane t .register)
  | .writing n =>
    let before := (net.channel.lane t).sent.length
    let net := net.stepLane t (.wrote .written)
    if before < (net.channel.lane t).sent.length then
      let net := net.schedule x.timeout (.deadline t x.ticket x.second)
      some (net.deliver t n (Frame.payloadOf x.request.json))
    else some net
  | .waiting n =>
    if x.glance != .mail || x.mail.isSome || !(net.channel.lane t).isOpen n then
      some (net.stepLane t (.wake false))
    else none

/-- The next step of the reader of a connection, if it can take one now. -/
def advanceReader? (net : Network) (w : Wire) : Option Network :=
  match (net.channel.lane w.target).connections[w.connection]? with
  | none => none
  | some c =>
    let stop (e : Ending) : Option Network :=
      some ((net.stepLane w.target (.ended w.connection e)).hangUp w.target w.connection)
    match c.reader with
    | .stopped => none
    | .stopping => some (net.stepLane w.target (.drained w.connection))
    | .reading =>
      if c.closed then stop .closedHere
      else
        match Frame.front w.incoming with
        | .frame payload rest =>
          let net := net.updateWires
            (fun v => v.target == w.target && v.connection == w.connection)
            fun v => { v with incoming := rest }
          some (net.stepLane w.target (.received w.connection payload))
        | .tooLarge size => stop (.broken (.tooLarge size))
        | .noHeader => if w.closedByAgent then stop .closedByAgent else none
        | .cut =>
          if w.closedByAgent then stop (.broken (.io OsError.unexpectedEnd.message)) else none

/-- The next step in a lane, if there is one now. -/
def advanceLane? (net : Network) (t : Target) : Option Network :=
  let lane := net.channel.lane t
  match lane.exchange with
  | some x => net.advanceCall? t x
  | none => if lane.queue.isEmpty then none else some (net.stepLane t .grant)

/-- Something that can happen now, if there is anything. -/
def advance? (net : Network) : Option Network :=
  (net.channel.lanes.keys.findSome? net.advanceLane?).orElse fun _ =>
    (net.wires.findSome? net.advanceReader?).orElse fun _ => net.advanceScripted?

def fire (net : Network) : Due → Network
  | .deadline t ticket second =>
    match (net.channel.lane t).exchange with
    | some x =>
      if x.ticket = ticket ∧ x.second = second then
        (net.stepLane t (.wake true)).stepLane t (.wake true)
      else net
    | none => net
  | .mock i number =>
    match net.kind? i with
    | some (.mock a) => net.reactMock i a (.due number)
    | _ => net
  | .scripted i n =>
    match net.kind? i with
    | some (.scripted a) => net.updateAgent i (.scripted (a.wakeUp n))
    | _ => net

/-- The earliest of what is due, up to a time, and the rest. -/
def nextTimer? (limit : Nat) (timers : List (Nat × Due)) :
    Option ((Nat × Due) × List (Nat × Due)) :=
  match (timers.map (·.1)).min? with
  | none => none
  | some first =>
    if limit < first then none
    else
      match timers.findIdx? fun t => t.1 == first with
      | none => none
      | some i => timers[i]?.map fun t => (t, timers.eraseIdx i)

/-- Lets things happen until a condition holds or nothing is left before a time; at most `fuel` of
them. -/
def runUntil (done : Network → Bool) (limit : Nat) : (fuel : Nat) → Network → Network
  | 0, net => net
  | fuel + 1, net =>
    if done net then net
    else
      match net.advance? with
      | some net => runUntil done limit fuel net
      | none =>
        match nextTimer? limit net.timers with
        | some ((time, due), rest) =>
          runUntil done limit fuel ({ net with now := max net.now time, timers := rest }.fire due)
        | none => net

def manySteps : Nat := 100000

def wait (net : Network) (time : Duration) : Network :=
  let limit := net.now + time.nanos
  { net.runUntil (fun _ => false) limit manySteps with now := limit }

def outcome? (net : Network) (t : Target) (ticket : Nat) : Option Outcome :=
  ((net.channel.lane t).finished.find? (·.ticket == ticket)).map (·.outcome)

/-- The end of all time, for calls that have to come to their end. -/
def endOfTime (net : Network) : Nat :=
  (net.timers.map (·.1)).foldl max net.now + 1000000000000000000000

/-- Makes calls, in the order given, and lets them all come to their ends. -/
def perform (net : Network) (calls : List (Target × Operation)) : Network × List Outcome :=
  let (net, tickets) := calls.foldl (fun (net, tickets) (t, operation) =>
    let ticket := (net.channel.lane t).calls
    (net.stepLane t (.call operation), tickets ++ [(t, ticket)])) (net, [])
  let isDone (net : Network) : Bool := tickets.all fun (t, ticket) => (net.outcome? t ticket).isSome
  let net := net.runUntil isDone net.endOfTime manySteps
  (net, tickets.map fun (t, ticket) =>
    (net.outcome? t ticket).getD (.failed .connectionClosed))

/-- Makes one call, and tells what was reported on the way. -/
def call (t : Target) (operation : Operation) (net : Network) :
    Network × Outcome × List LogEvent :=
  let before := (net.channel.lane t).log.length
  let (net, outcomes) := net.perform [(t, operation)]
  (net, outcomes.headD (.failed .connectionClosed), (net.channel.lane t).log.drop before)

end Network

end ClassSwap
