import ClassSwap.Channel.Error
import ClassSwap.Upload.Jar

namespace ClassSwap

inductive UploadError where
  | emptyBatch
  | connectionRefused (endpoint : Endpoint)
  | timeout (after : Duration)
  | protocolMismatch (text : String)
  | detached (target : Target)
  | rejected (text : String)
  | archive (text : String)
  | transport (text : String)
  deriving DecidableEq, Repr

namespace UploadError

def message : UploadError → String
  | emptyBatch => "nothing to upload"
  | connectionRefused endpoint => (ChannelError.connectionRefused endpoint).message
  | timeout after => "agent did not acknowledge the upload within " ++ after.text
  | protocolMismatch text => (ChannelError.protocolMismatch text).message
  | detached target => (ChannelError.detached target).message
  | rejected text => "redefinition rejected: " ++ text
  | archive text => "failed to package classes: " ++ text
  | transport text => "agent connection failed: " ++ text

def ofChannel : ChannelError → UploadError
  | .connectionRefused endpoint => connectionRefused endpoint
  | .timeout _ after => timeout after
  | .protocolMismatch text => protocolMismatch text
  | .detached target => detached target
  | .agent _ text => rejected text
  | .connectionClosed => transport ChannelError.connectionClosed.message
  | .io text => transport (ChannelError.io text).message

end UploadError

inductive Payload where
  | single (name : String) (bytes : Bytes)
  | archive (name : String) (bytes : Bytes)
  deriving DecidableEq, Repr

namespace Payload

/-- Packs classes for a class loader; `number` tells the archives of a session apart. -/
def build (scope : Scope) (classes : List ClassFile) (number : Nat)
    (packer : Zip.Packer := .storing) : Except UploadError Payload :=
  match classes with
  | [] => .error .emptyBatch
  | [c] => .ok (.single (scope.name ++ "/" ++ c.className.text ++ ClassName.classSuffix) c.bytes)
  | many =>
    match Jar.build many packer with
    | .ok bytes =>
      .ok (.archive (scope.name ++ "/hotline-" ++ toString number ++ "-classes.jar") bytes)
    | .error e => .error (.archive e.message)

def name : Payload → String
  | single name _ | archive name _ => name

def bytes : Payload → Bytes
  | single _ bytes | archive _ bytes => bytes

def isArchive : Payload → Bool
  | single .. => false
  | archive .. => true

/-- The command that carries the payload, its bytes as base64 text. -/
def command : Payload → Command
  | single name bytes => .uploadClass name (Base64.encode bytes)
  | archive name bytes => .uploadArchive name (Base64.encode bytes)

/-- How diagnostics show a payload: its name and its length in bytes. -/
def diagnostic (p : Payload) : String :=
  (if p.isArchive then "Archive" else "Class") ++ " \x7b name: " ++ Quoted.text p.name ++ ", len: "
    ++ toString p.bytes.length ++ " \x7d"

end Payload

end ClassSwap
