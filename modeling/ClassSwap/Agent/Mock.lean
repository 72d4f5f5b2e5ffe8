import ClassSwap.Duration
import ClassSwap.Wire.Frame

namespace ClassSwap

structure MockConfig where
  classes : List ClassEntry := []
  bytecode : Table String Bytes := []
  /-- Replies to these actions are held back. Other requests are answered meanwhile. -/
  delays : Table Action Duration := []
  /-- Every upload is refused with this text. -/
  rejection : Option String := none
  /-- Replies with bytes name this class, whichever was asked for. -/
  echo : Option String := none
  /-- These actions are answered by a frame that is no reply. -/
  malformed : List Action := []
  /-- The first request for each of these is not answered; its connection is closed. -/
  dropped : List Action := []

/-- An agent that has some classes, each with bytes that begin like those of a class file. -/
def MockConfig.serving (classes : List ClassEntry) : MockConfig :=
  { classes
    bytecode := classes.foldl
      (fun t e => t.put e.name ([0xca, 0xfe, 0xba, 0xbe] ++ Utf8.ofString e.name)) [] }

structure MockUpload where
  action : Action
  name : String
  bytes : Bytes
  deriving DecidableEq, Repr

structure HeldReply where
  number : Nat
  connection : Nat
  payload : Bytes
  halts : Bool
  deriving DecidableEq, Repr

structure MockAgent where
  config : MockConfig
  requests : List Request := []
  uploads : List MockUpload := []
  /-- The actions of which a request has been dropped. -/
  spent : List Action := []
  /-- How many connections have been accepted; each has its number. -/
  connections : Nat := 0
  live : List Nat := []
  held : List HeldReply := []
  inFlight : Nat := 0
  maxInFlight : Nat := 0
  halted : Bool := false

inductive MockEvent where
  | accepted
  | received (connection : Nat) (payload : Bytes)
  /-- The time of a reply that is held back has come. -/
  | due (number : Nat)
  /-- A reply that is held back is given up, because the agent has halted. -/
  | abandoned (number : Nat)
  /-- The other side has closed the connection, or the agent has halted. -/
  | lost (connection : Nat)
  deriving DecidableEq, Repr

/-- What the agent does, in order. Requests are known by their numbers. -/
inductive MockAct where
  | began (number : Nat)
  | ended (number : Nat)
  | wrote (connection : Nat) (number : Nat) (payload : Bytes)
  | held (number : Nat) (delay : Duration)
  | closed (connection : Nat)
  | halted
  deriving DecidableEq, Repr

namespace MockConfig

def hasClass (config : MockConfig) (name : String) : Bool := config.classes.any (·.name == name)

def unknownClass (r : Request) (name : String) : Response :=
  .reject r.id r.command.action ("class not found: " ++ name)

def uploadResponse (config : MockConfig) (r : Request) (name body : String) : Response :=
  let action := r.command.action
  match config.rejection, decodeBody body with
  | some text, _ => .reject r.id action text
  | none, .error e => .reject r.id action e.message
  | none, .ok _ => { Response.accept r.id action with message := some ("redefined " ++ name) }

def response (config : MockConfig) (r : Request) : Response :=
  let accepted := Response.accept r.id r.command.action
  match r.command with
  | .listClasses => { accepted with classes := some config.classes }
  | .fetchBytes name =>
    match config.bytecode.get? name with
    | some bytes =>
      { accepted with
        className := some (config.echo.getD name), body := some (Base64.encode bytes) }
    | none => unknownClass r name
  | .initClass name => if config.hasClass name then accepted else unknownClass r name
  | .uploadClass name body | .uploadArchive name body => config.uploadResponse r name body
  | .halt => accepted

def upload? (config : MockConfig) (r : Request) : Option MockUpload :=
  match r.command with
  | .uploadClass name body | .uploadArchive name body =>
    if config.rejection.isSome then none
    else (decodeBody body).toOption.map fun bytes => ⟨r.command.action, name, bytes⟩
  | _ => none

def malformedPayload : Bytes := Utf8.ofString "\x7bnot json"

def payload (config : MockConfig) (r : Request) : Bytes :=
  if config.malformed.contains r.command.action then malformedPayload
  else Frame.payloadOf (config.response r).json

/-- How long the reply to an action is held back, if it is. -/
def delay? (config : MockConfig) (action : Action) : Option Duration :=
  (config.delays.get? action).filter fun d => d.nanos != 0

end MockConfig

namespace MockAgent

def start (config : MockConfig) : MockAgent := { config }

def begin (a : MockAgent) : MockAgent :=
  { a with inFlight := a.inFlight + 1, maxInFlight := max a.maxInFlight (a.inFlight + 1) }

def finish (a : MockAgent) : MockAgent := { a with inFlight := a.inFlight - 1 }

def hangUp (a : MockAgent) (connection : Nat) : MockAgent :=
  { a with live := a.live.erase connection }

def takeNote (a : MockAgent) (r : Request) : MockAgent :=
  { a.begin with requests := a.requests ++ [r] }

/-- Whether a request is the first of an action that is to be dropped. -/
def drops (a : MockAgent) (action : Action) : Bool :=
  a.config.dropped.contains action && !a.spent.contains action

/-- Ends a request and writes its reply; the end comes first. -/
def conclude (a : MockAgent) (reply : HeldReply) : MockAgent × List MockAct :=
  let a := a.finish
  let write := MockAct.wrote reply.connection reply.number reply.payload
  if reply.halts then ({ a with halted := true }, [.ended reply.number, .halted, write])
  else (a, [.ended reply.number, write])

def handle (a : MockAgent) (connection : Nat) (r : Request) : MockAgent × List MockAct :=
  let number := a.requests.length
  let action := r.command.action
  let a := a.takeNote r
  if a.drops action then
    (({ a with spent := a.spent ++ [action] }.finish).hangUp connection,
      [.began number, .ended number, .closed connection])
  else
    let a := { a with uploads := a.uploads ++ (a.config.upload? r).toList }
    let reply : HeldReply := ⟨number, connection, a.config.payload r, r.command == .halt⟩
    match a.config.delay? action with
    | some delay => ({ a with held := a.held ++ [reply] }, [.began number, .held number delay])
    | none =>
      let (a, acts) := a.conclude reply
      (a, .began number :: acts)

def received (a : MockAgent) (connection : Nat) (payload : Bytes) : MockAgent × List MockAct :=
  match Frame.decode Request.read payload with
  | .error _ => (a.hangUp connection, [.closed connection])
  | .ok r => a.handle connection r

def release (a : MockAgent) (number : Nat) (f : MockAgent → HeldReply → MockAgent × List MockAct) :
    MockAgent × List MockAct :=
  match a.held.find? (·.number == number) with
  | some reply => f { a with held := a.held.filter (·.number != number) } reply
  | none => (a, [])

/-- One step of the agent; an event that is not possible changes nothing. -/
def step (a : MockAgent) : MockEvent → MockAgent × List MockAct
  | .accepted =>
    if a.halted then (a, [])
    else ({ a with connections := a.connections + 1, live := a.live ++ [a.connections] }, [])
  | .received connection payload =>
    if a.live.contains connection then a.received connection payload else (a, [])
  | .due number => a.release number conclude
  | .abandoned number =>
    if a.halted then a.release number fun a reply => (a.finish, [.ended reply.number]) else (a, [])
  | .lost connection =>
    if a.live.contains connection then (a.hangUp connection, [.closed connection]) else (a, [])

end MockAgent

end ClassSwap
