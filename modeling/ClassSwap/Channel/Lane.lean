import ClassSwap.Channel.Call
import ClassSwap.Log

namespace ClassSwap

inductive ReaderState where
  | reading
  /-- It has seen the end, and has yet to tell those who wait. -/
  | stopping
  | stopped
  deriving DecidableEq, Repr

structure Connection where
  endpoint : Endpoint
  closed : Bool := false
  pending : List RequestId := []
  reader : ReaderState := .reading
  deriving DecidableEq, Repr

/-- How far a request has come. Connections are known by their numbers. -/
inductive Stage where
  | choosing
  | dialing
  | entering (connection : Nat)
  | registering (connection : Nat)
  | writing (connection : Nat)
  | waiting (connection : Nat)
  deriving DecidableEq, Repr

/-- What a call that waits looks at next. It looks at one after the other, again and again. -/
inductive Glance where
  | mail
  | clock
  | connection
  deriving DecidableEq, Repr

structure Exchange where
  ticket : Nat
  request : Request
  timeout : Duration
  /-- The lane held an open connection when the call looked. -/
  reused : Bool
  /-- The request goes out for the second time. -/
  second : Bool := false
  stage : Stage := .choosing
  mail : Option (Except ChannelError Response) := none
  glance : Glance := .mail

structure Finished where
  ticket : Nat
  operation : Operation
  outcome : Outcome
  deriving DecidableEq, Repr

structure Transmission where
  ticket : Nat
  connection : Nat
  request : Request
  deriving DecidableEq, Repr

/-- An attempt at a request that has failed; `sent` tells whether its frame was handed to a
socket. -/
structure Lapse where
  ticket : Nat
  error : ChannelError
  sent : Bool
  deriving DecidableEq, Repr

structure Lane where
  standing : Standing := none
  /-- How many calls have come in; each has its number as a ticket. -/
  calls : Nat := 0
  queue : List (Nat × Operation) := []
  exchange : Option Exchange := none
  /-- The connection that is kept for the next call. -/
  slot : Option Nat := none
  connections : List Connection := []
  sent : List Transmission := []
  lapses : List Lapse := []
  finished : List Finished := []
  log : List LogEvent := []

inductive Dialing where
  | connected
  | refused
  | failed (text : String)
  | expired
  deriving DecidableEq, Repr

inductive Writing where
  | written
  | failed (text : String)
  deriving DecidableEq, Repr

inductive Ending where
  /-- The agent closed the connection between two frames. -/
  | closedByAgent
  | broken (error : CodecError)
  /-- The connection has been closed on this side. -/
  | closedHere
  deriving DecidableEq, Repr

inductive LaneEvent where
  | call (operation : Operation)
  /-- The first in the queue gets the lane. -/
  | grant
  /-- The caller picks the connection to use. -/
  | choose
  | dialed (result : Dialing)
  /-- The caller makes sure that the connection is open. -/
  | enter
  /-- The caller puts down its request as awaiting a response. -/
  | register
  | wrote (result : Writing)
  /-- The caller takes its next look; its time may be over. -/
  | wake (expired : Bool)
  /-- The reader of a connection gets the payload of a frame. -/
  | received (connection : Nat) (payload : Bytes)
  | ended (connection : Nat) (ending : Ending)
  /-- The reader of a connection tells those who wait that it is gone. -/
  | drained (connection : Nat)
  /-- A caller gives up and drops its call, wherever that stands. -/
  | abandoned (ticket : Nat)
  deriving DecidableEq, Repr

namespace Lane

def area : String := "hotline.agent"

def note (lane : Lane) (level : LogLevel) (message : String) (fields : List (String × LogValue)) :
    Lane :=
  { lane with log := lane.log ++ [⟨level, area, message, fields⟩] }

def update (lane : Lane) (n : Nat) (f : Connection → Connection) : Lane :=
  { lane with connections := lane.connections.modify n f }

def isOpen (lane : Lane) (n : Nat) : Bool :=
  match lane.connections[n]? with
  | some c => !c.closed
  | none => false

/-- The connection in the slot, if it is open. -/
def usable? (lane : Lane) : Option Nat := lane.slot.filter lane.isOpen

def release (lane : Lane) : Lane :=
  match lane.slot with
  | some n => { lane.update n (fun c => { c with closed := true }) with slot := none }
  | none => lane

def withdraw (lane : Lane) (n : Nat) (id : RequestId) : Lane :=
  lane.update n fun c => { c with pending := c.pending.erase id }

def finish (lane : Lane) (ticket : Nat) (operation : Operation) (outcome : Outcome) : Lane :=
  { lane with exchange := none, finished := lane.finished ++ [⟨ticket, operation, outcome⟩] }

def conclude (lane : Lane) (x : Exchange) (outcome : Outcome) : Lane :=
  lane.finish x.ticket (.send x.request.command x.timeout) outcome

def moveTo (lane : Lane) (x : Exchange) (stage : Stage) : Lane :=
  { lane with exchange := some { x with stage } }

/-- Changes what is known of the target; nothing is kept of one that was never attached. -/
def learn (lane : Lane) (target : Target) (f : Standing → Standing) : Lane :=
  match lane.standing with
  | none =>
    lane.note .debug "status update for unknown target ignored" [("target", .text target.text)]
  | some _ => { lane with standing := f lane.standing }

def quit (lane : Lane) (target : Target) : Lane := lane.release.learn target Standing.leave

def mayRepeat (x : Exchange) (e : ChannelError) (sent : Bool) : Bool :=
  x.reused && !x.second && x.request.command != .halt && e.isLoss
    && (!sent || x.request.command.isRepeatable)

/-- An attempt has failed; `sent` tells whether the frame was handed to the socket. -/
def fail (target : Target) (lane : Lane) (x : Exchange) (e : ChannelError) (sent : Bool) : Lane :=
  let about : String × LogValue := ("target", .text target.text)
  let lapse : Lapse := ⟨x.ticket, e, sent⟩
  let lane := { lane with lapses := lane.lapses ++ [lapse] }
  if x.request.command = .halt then
    ((lane.note .warn "error when sending halt to agent" [about, ("error", .text e.message)]).quit
      target).conclude x (.answered .halted)
  else if mayRepeat x e sent then
    let lane := (lane.note .debug "connection went stale; reconnecting" [about]).release
    let again : Exchange :=
      { x with second := true, stage := .choosing, mail := none, glance := .mail }
    { lane with exchange := some again }
  else
    let lane := if e.isLoss then lane.release.learn target Standing.detach else lane
    (lane.note .debug "agent request failed"
      [about, ("id", .number x.request.id.toNat), ("error", .text e.message)]).conclude x
        (.failed e)

def settle (target : Target) (lane : Lane) (x : Exchange) (r : Response) : Lane :=
  let about : String × LogValue := ("target", .text target.text)
  if x.request.command = .halt then
    let lane :=
      if r.isOk then lane.note .info "agent closing socket and exiting" [about]
      else lane.note .warn "agent refused halt" [about, ("message", .text (r.message.getD ""))]
    (lane.quit target).conclude x (.answered .halted)
  else
    match Reply.judge x.request.command r with
    | .error e => lane.conclude x (.failed e)
    | .ok reply => (lane.learn target (reply.record x.request.command)).conclude x (.answered reply)

def call (target : Target) (lane : Lane) (operation : Operation) : Lane :=
  let ticket := lane.calls
  let lane := { lane with calls := ticket + 1 }
  if target.isFileSystem then
    { lane with finished := lane.finished ++ [⟨ticket, operation, .failed (.detached target)⟩] }
  else { lane with queue := lane.queue ++ [(ticket, operation)] }

/-- Starts the request of a call that has just got the lane. -/
def start (target : Target) (id : RequestId) (lane : Lane) (ticket : Nat) (command : Command)
    (timeout : Duration) (endpoint : Endpoint) : Lane :=
  let lane :=
    if command = .halt then lane
    else
      lane.note .debug "sending agent request"
        [("target", .text target.text), ("id", .number id.toNat),
          ("command", .text command.diagnostic)]
  let request : Request := ⟨id, endpoint.host, endpoint.port, command⟩
  { lane with exchange := some { ticket, request, timeout, reused := lane.usable?.isSome } }

def grant (target : Target) (id : RequestId) (lane : Lane) : Lane :=
  match lane.exchange, lane.queue with
  | none, (ticket, operation) :: rest =>
    let lane := { lane with queue := rest }
    match operation with
    | .attach endpoint =>
      let lane := lane.release.note .info "attached"
        [("target", .text target.text), ("endpoint", .text endpoint.text)]
      let lane := { lane with standing := Standing.attached endpoint }
      lane.finish ticket operation .attached
    | .send command timeout =>
      match lane.standing.endpoint? with
      | some endpoint => start target id lane ticket command timeout endpoint
      | none =>
        if command = .halt then
          ((lane.note .debug "halt on a target with no agent" [("target", .text target.text)]).quit
            target).finish ticket operation (.answered .halted)
        else lane.finish ticket operation (.failed (.detached target))
  | _, _ => lane

def takesNumber (lane : Lane) : Bool :=
  match lane.exchange, lane.queue with
  | none, (_, .send ..) :: _ => lane.standing.isAttached
  | _, _ => false

def choose (lane : Lane) (x : Exchange) : Lane :=
  match x.stage with
  | .choosing =>
    match lane.usable? with
    | some n => lane.moveTo x (.entering n)
    | none => lane.moveTo x .dialing
  | _ => lane

def dialed (target : Target) (patience : Duration) (lane : Lane) (x : Exchange) (result : Dialing) :
    Lane :=
  let endpoint : Endpoint := ⟨x.request.host, x.request.port⟩
  match x.stage with
  | .dialing =>
    match result with
    | .connected =>
      let n := lane.connections.length
      let lane := lane.note .debug "connected to agent" [("endpoint", .text endpoint.text)]
      let fresh : Connection := { endpoint }
      let lane := { lane with connections := lane.connections ++ [fresh], slot := some n }
      lane.moveTo x (.entering n)
    | .refused => fail target lane x (.connectionRefused endpoint) false
    | .failed text => fail target lane x (.io text) false
    | .expired => fail target lane x (.timeout x.request.command.action patience) false
  | _ => lane

def enter (target : Target) (lane : Lane) (x : Exchange) : Lane :=
  match x.stage with
  | .entering n =>
    if lane.isOpen n then lane.moveTo x (.registering n)
    else fail target lane x .connectionClosed false
  | _ => lane

def register (lane : Lane) (x : Exchange) : Lane :=
  match x.stage with
  | .registering n =>
    (lane.update n fun c => { c with pending := c.pending ++ [x.request.id] }).moveTo x (.writing n)
  | _ => lane

def wrote (target : Target) (lane : Lane) (x : Exchange) (result : Writing) : Lane :=
  match x.stage with
  | .writing n =>
    match Frame.encode x.request.json with
    | .error e => fail target (lane.withdraw n x.request.id) x (.ofCodec e) false
    | .ok _ =>
      match result with
      | .written =>
        let record : Transmission := ⟨x.ticket, n, x.request⟩
        let lane := { lane with sent := lane.sent ++ [record] }
        lane.moveTo x (.waiting n)
      | .failed text => fail target (lane.withdraw n x.request.id) x (.io text) false
  | _ => lane

def lookAt (lane : Lane) (x : Exchange) (glance : Glance) : Lane :=
  { lane with exchange := some { x with glance } }

/-- One look. What has been handed over by the look at the mail counts, whatever the time and the
connection are; what comes behind that look has to wait for the next round, if there is one. -/
def wake (target : Target) (lane : Lane) (x : Exchange) (expired : Bool) : Lane :=
  match x.stage with
  | .waiting n =>
    match x.glance with
    | .mail =>
      match x.mail with
      | some (.ok r) => settle target lane x r
      | some (.error e) => fail target lane x e true
      | none => lane.lookAt x .clock
    | .clock =>
      if expired then
        fail target (lane.withdraw n x.request.id) x
          (.timeout x.request.command.action x.timeout) true
      else lane.lookAt x .connection
    | .connection =>
      if lane.isOpen n then lane.lookAt x .mail
      else fail target (lane.withdraw n x.request.id) x .connectionClosed true
  | _ => lane

/-- Hands something to the call that awaits a response on a connection and has got none yet. -/
def deliver (lane : Lane) (n : Nat) (id : RequestId) (mail : Except ChannelError Response) : Lane :=
  match lane.exchange with
  | some x =>
    if x.request.id = id ∧ (x.stage = .writing n ∨ x.stage = .waiting n) ∧ x.mail = none then
      { lane with exchange := some { x with mail := some mail } }
    else lane
  | none => lane

/-- Hands the same failure to all that await a response on a connection. -/
def deliverAll (lane : Lane) (n : Nat) (c : Connection) (e : ChannelError) : Lane :=
  c.pending.foldl (fun lane id => lane.deliver n id (.error e))
    (lane.update n fun c => { c with pending := [] })

/-- A response completes the request with its number; one that nobody awaits is dropped. A payload
that cannot be read fails all that wait, for it might be the response to any of them. -/
def received (lane : Lane) (n : Nat) (c : Connection) (payload : Bytes) : Lane :=
  let about : String × LogValue := ("endpoint", .text c.endpoint.text)
  match Frame.decode Response.read payload with
  | .error e =>
    (lane.note .warn "undecodable agent reply" [about, ("error", .text e.message)]).deliverAll n c
      (.protocolMismatch ("undecodable reply: " ++ e.message))
  | .ok r =>
    if c.pending.contains r.id then (lane.withdraw n r.id).deliver n r.id (.ok r)
    else
      lane.note .warn "dropping reply with no outstanding request"
        [about, ("id", .number r.id.toNat), ("action", .text r.action.name)]

def ended (lane : Lane) (n : Nat) (c : Connection) (ending : Ending) : Lane :=
  let about : String × LogValue := ("endpoint", .text c.endpoint.text)
  let stop := lane.update n fun c => { c with closed := true, reader := .stopping }
  match ending with
  | .closedByAgent => stop.note .debug "agent closed the connection" [about]
  | .broken e => stop.note .warn "failed to read agent frame" [about, ("error", .text e.message)]
  | .closedHere => if c.closed then stop else lane

def drained (lane : Lane) (n : Nat) (c : Connection) : Lane :=
  (lane.update n fun c => { c with reader := .stopped }).deliverAll n c .connectionClosed

/-- A call that is dropped frees the lane or leaves the queue. What it has put down with a
connection stays there. -/
def abandon (lane : Lane) (ticket : Nat) : Lane :=
  { lane with
    queue := lane.queue.filter (·.1 ≠ ticket)
    exchange := lane.exchange.filter (·.ticket ≠ ticket) }

def proceed (lane : Lane) (f : Exchange → Lane) : Lane :=
  match lane.exchange with
  | some x => f x
  | none => lane

/-- A step of the reader of a connection that is in a given state. -/
def attend (lane : Lane) (n : Nat) (state : ReaderState) (f : Connection → Lane) : Lane :=
  match lane.connections[n]? with
  | some c => if c.reader = state then f c else lane
  | none => lane

/-- `patience` is how long a connect may take, and `id` the next request number. -/
def step (target : Target) (patience : Duration) (id : RequestId) (lane : Lane) : LaneEvent → Lane
  | .call operation => call target lane operation
  | .grant => grant target id lane
  | .choose => lane.proceed (choose lane)
  | .dialed result => lane.proceed fun x => dialed target patience lane x result
  | .enter => lane.proceed (enter target lane)
  | .register => lane.proceed (register lane)
  | .wrote result => lane.proceed fun x => wrote target lane x result
  | .wake expired => lane.proceed fun x => wake target lane x expired
  | .received n payload => lane.attend n .reading fun c => received lane n c payload
  | .ended n ending => lane.attend n .reading fun c => ended lane n c ending
  | .drained n => lane.attend n .stopping fun c => drained lane n c
  | .abandoned ticket => lane.abandon ticket

end Lane

end ClassSwap
