import ClassSwap.Duration
import ClassSwap.Wire.Frame

namespace ClassSwap

inductive ChannelError where
  | connectionRefused (endpoint : Endpoint)
  | timeout (action : Action) (after : Duration)
  /-- The reply does not belong to the request. -/
  | protocolMismatch (text : String)
  /-- The target has no agent: it is the file system, was never attached, or has been halted. -/
  | detached (target : Target)
  | connectionClosed
  | agent (action : Action) (text : String)
  | io (text : String)
  deriving DecidableEq, Repr

namespace ChannelError

def message : ChannelError → String
  | connectionRefused endpoint => "connection to agent at " ++ endpoint.text ++ " refused"
  | timeout action after => "agent did not answer " ++ action.name ++ " within " ++ after.text
  | protocolMismatch text => "protocol mismatch: " ++ text
  | detached target => "target " ++ target.text ++ " is not attached to an agent"
  | connectionClosed => "connection to agent closed"
  | agent _ text => "agent error: " ++ text
  | io text => "agent i/o error: " ++ text

/-- A failed transport leaves the session usable: the caller may try again. -/
def isTransport : ChannelError → Bool
  | connectionRefused _ | timeout .. | protocolMismatch _ | connectionClosed | io _ => true
  | detached _ | agent .. => false

def ofCodec : CodecError → ChannelError
  | .io text => io text
  | e => protocolMismatch e.message

end ChannelError

end ClassSwap
