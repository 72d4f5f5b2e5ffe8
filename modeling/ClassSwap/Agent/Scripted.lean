import ClassSwap.Duration
import ClassSwap.Wire.Frame

namespace ClassSwap

inductive ScriptStep where
  /-- Sends bytes, which may depend on the number of the request. -/
  | send (bytes : RequestId → Bytes)
  | sleep (time : Duration)
  | close

structure ScriptedConnection where
  /-- What has come in and waits to be read. -/
  inbox : List Bytes := []
  /-- The request that is being answered, and what is left to do for it. -/
  current : Option (RequestId × List ScriptStep) := none
  asleep : Bool := false
  closed : Bool := false

structure ScriptedAgent where
  script : List (List ScriptStep)
  requests : List Request := []
  connections : List ScriptedConnection := []

inductive ScriptedAct where
  | wrote (connection : Nat) (bytes : Bytes)
  | sleeps (connection : Nat) (time : Duration)
  | closed (connection : Nat)

namespace ScriptedAgent

/-- The refusal of a request that the script does not foresee. -/
def exhausted (r : Request) : List ScriptStep :=
  [.send fun id =>
    match Frame.encode (Response.reject id r.command.action "script exhausted").json with
    | .ok frame => frame
    | .error _ => []]

def accept (a : ScriptedAgent) : ScriptedAgent := { a with connections := a.connections ++ [{}] }

def update (a : ScriptedAgent) (n : Nat) (f : ScriptedConnection → ScriptedConnection) :
    ScriptedAgent :=
  { a with connections := a.connections.modify n f }

def deliver (a : ScriptedAgent) (n : Nat) (payload : Bytes) : ScriptedAgent :=
  a.update n fun c => { c with inbox := c.inbox ++ [payload] }

def wakeUp (a : ScriptedAgent) (n : Nat) : ScriptedAgent :=
  a.update n fun c => { c with asleep := false }

def takeRequest (a : ScriptedAgent) (n : Nat) (payload : Bytes) (rest : List Bytes) :
    ScriptedAgent × List ScriptedAct :=
  match Frame.decode Request.read payload with
  | .error _ => (a.update n fun c => { c with inbox := rest, closed := true }, [.closed n])
  | .ok r =>
    let steps := (a.script[a.requests.length]?).getD (exhausted r)
    ({ a with requests := a.requests ++ [r] }.update n fun c =>
      { c with inbox := rest, current := some (r.id, steps) }, [])

def perform (a : ScriptedAgent) (n : Nat) (id : RequestId) (s : ScriptStep)
    (rest : List ScriptStep) : ScriptedAgent × List ScriptedAct :=
  let a := a.update n fun c => { c with current := some (id, rest) }
  match s with
  | .send bytes => (a, [.wrote n (bytes id)])
  | .sleep time => (a.update n fun c => { c with asleep := true }, [.sleeps n time])
  | .close => (a.update n fun c => { c with closed := true }, [.closed n])

/-- What a connection does next, if there is anything to do now. -/
def advance? (a : ScriptedAgent) (n : Nat) : Option (ScriptedAgent × List ScriptedAct) :=
  match a.connections[n]? with
  | none => none
  | some c =>
    if c.asleep || c.closed then none
    else
      match c.current with
      | some (id, s :: rest) => some (a.perform n id s rest)
      | some (_, []) => some (a.update n fun c => { c with current := none }, [])
      | none =>
        match c.inbox with
        | payload :: rest => some (a.takeRequest n payload rest)
        | [] => none

end ScriptedAgent

end ClassSwap
