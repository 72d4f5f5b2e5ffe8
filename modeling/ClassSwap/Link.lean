import ClassSwap.Agent.Network
import ClassSwap.Compile.Provider
import ClassSwap.Config

namespace ClassSwap

structure Link (σ : Type) where
  call : Target → Operation → σ → σ × Outcome × List LogEvent
  standing : σ → Target → Standing
  timeout : Duration

/-- The answer to a request, and what was reported on the way. -/
structure Answer (σ α : Type) where
  state : σ
  result : Except ChannelError α
  events : List LogEvent := []

namespace Link

variable {σ : Type}

/-- Sends a command and reads the reply; `pick` takes what is wanted out of it. -/
def request {α : Type} (link : Link σ) (t : Target) (command : Command) (timeout : Duration)
    (pick : Reply → Option α) (s : σ) : Answer σ α :=
  let (s, outcome, events) := link.call t (.send command timeout) s
  let unexpected : Except ChannelError α :=
    .error (.protocolMismatch ("unexpected reply to " ++ command.action.name))
  let result : Except ChannelError α :=
    match outcome with
    | .failed e => .error e
    | .attached => unexpected
    | .answered reply =>
      match pick reply with
      | some a => .ok a
      | none => unexpected
  ⟨s, result, events⟩

def listClasses (link : Link σ) (t : Target) : σ → Answer σ (List ClassEntry) :=
  link.request t .listClasses link.timeout fun reply =>
    match reply with
    | .classes entries => some entries
    | _ => none

def fetchBytes (link : Link σ) (t : Target) (c : ClassName) : σ → Answer σ ClassFile :=
  link.request t (.fetchBytes c.text) link.timeout fun reply =>
    match reply with
    | .bytes fetched => some fetched
    | _ => none

def initClass (link : Link σ) (t : Target) (c : ClassName) : σ → Answer σ Unit :=
  link.request t (.initClass c.text) link.timeout fun _ => some ()

def attach (link : Link σ) (t : Target) (endpoint : Endpoint) (s : σ) : Answer σ Unit :=
  let (s, outcome, events) := link.call t (.attach endpoint) s
  match outcome with
  | .failed e => ⟨s, .error e, events⟩
  | _ => ⟨s, .ok (), events⟩

/-- Ends the session; whether the agent hears of it does not matter. -/
def halt (link : Link σ) (t : Target) (s : σ) : σ × List LogEvent :=
  let (s, outcome, events) := link.call t (.send .halt link.timeout) s
  match outcome with
  | .failed e =>
    (s, events ++ [⟨.debug, Lane.area, "halt skipped",
      [("target", .text t.text), ("error", .text e.message)]⟩])
  | _ => (s, events)

/-- The classes of a target as a provider: bytes that are cached cost nothing, and everything else
costs one request. -/
def provider (link : Link σ) (t : Target) : Provider σ where
  names s := (link.standing s t).loadedNames
  resolve c s :=
    let about : String × LogValue := ("class", .text c.text)
    match (link.standing s t).cached? c with
    | some bytes => ⟨s, .ok bytes, [⟨.trace, "hotline.compile", "classpath cache hit", [about]⟩]⟩
    | none =>
      let a := link.fetchBytes t c s
      match a.result with
      | .ok fetched => ⟨a.state, .ok fetched.bytes, a.events⟩
      | .error (.agent _ text) =>
        ⟨a.state, .error (.notFound c), a.events ++ [⟨.debug, "hotline.compile",
          "agent could not provide class", [about, ("message", .text text)]⟩]⟩
      | .error e => ⟨a.state, .error (.transport c e), a.events⟩

end Link

namespace Network

def link (timeout : Duration) : Link Network where
  call := Network.call
  standing net t := net.channel.standing t
  timeout := timeout

/-- A channel over a network as the settings ask for it. -/
def ofSettings (reach : Reach) (agents : List AgentServer) (settings : Config.Agent) :
    Link Network × Network :=
  (link (.ofMillis settings.requestTimeout),
    { channel := { patience := .ofMillis settings.connectTimeout }, reach, agents })

end Network

end ClassSwap
