import ClassSwap.Channel.Error
import ClassSwap.Channel.Standing

namespace ClassSwap

inductive Operation where
  | attach (endpoint : Endpoint)
  | send (command : Command) (timeout : Duration)
  deriving DecidableEq, Repr

inductive Reply where
  | classes (entries : List ClassEntry)
  | bytes (fetched : ClassFile)
  | ack (message : Option String)
  | halted
  deriving DecidableEq, Repr

inductive Outcome where
  | attached
  | answered (reply : Reply)
  | failed (error : ChannelError)
  deriving DecidableEq, Repr

namespace Reply

/-- The bytes in a reply to a request for those of a class. -/
def bytesOf (className : String) (r : Response) : Except ChannelError ClassFile :=
  if r.className ≠ some className then
    .error (.protocolMismatch
      ("requested bytes of " ++ className ++ ", reply is for " ++ r.className.getD "<none>"))
  else
    match r.body with
    | none => .error (.protocolMismatch ("fetch_bytes reply for " ++ className ++ " has no body"))
    | some body =>
      match decodeBody body with
      | .error e => .error (.ofCodec e)
      | .ok [] => .error (.agent r.action ("agent returned no bytecode for " ++ className))
      | .ok content => .ok ⟨⟨className⟩, content⟩

def judge (command : Command) (r : Response) : Except ChannelError Reply :=
  if r.action ≠ command.action then
    .error (.protocolMismatch
      ("expected a reply to " ++ command.action.name ++ ", got " ++ r.action.name))
  else if !r.isOk then
    .error (.agent r.action (r.message.getD ("agent rejected " ++ r.action.name)))
  else
    match command with
    | .listClasses =>
      match r.classes with
      | some entries => .ok (classes entries)
      | none => .error (.protocolMismatch "list_classes reply without classes")
    | .fetchBytes className => (bytesOf className r).map bytes
    | .uploadClass .. | .uploadArchive .. | .initClass _ => .ok (ack r.message)
    | .halt => .ok halted

def record (command : Command) (reply : Reply) (s : Standing) : Standing :=
  match reply with
  | classes entries => s.recordClasses entries
  | bytes fetched => s.recordFetch fetched
  | ack _ =>
    match command with
    | .uploadClass .. | .uploadArchive .. => s.acknowledge.dropCache
    | _ => s.acknowledge
  | halted => s

end Reply

namespace ChannelError

/-- The connection broke, in contrast to an agent that is slow or answers something else. -/
def isLoss : ChannelError → Bool
  | connectionClosed | io _ => true
  | _ => false

end ChannelError

namespace Command

/-- A command that changes nothing in the target, so that asking twice does no harm. -/
def isRepeatable : Command → Bool
  | listClasses | fetchBytes _ => true
  | _ => false

end Command

end ClassSwap
