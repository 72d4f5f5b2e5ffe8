import ClassSwap.Upload.Payload

namespace ClassSwap

structure UploadAck where
  name : String
  classes : List ClassName
  archived : Bool
  message : Option String
  deriving DecidableEq, Repr

def UploadAck.json (a : UploadAck) : Json :=
  .object ([("name", .string a.name), ("classes", .array (a.classes.map fun c => .string c.text)),
      ("archived", .bool a.archived)]
    ++ Json.optional "message" (a.message.map .string))

inductive SwapStatus where
  | success
  | compileError
  | redefinitionError
  /-- The agent could not be reached or answered something else. -/
  | agentUnavailable
  deriving DecidableEq, Repr

namespace SwapStatus

def name : SwapStatus → String
  | success => "success"
  | compileError => "compile_error"
  | redefinitionError => "redefinition_error"
  | agentUnavailable => "agent_unavailable"

def all : List SwapStatus := [success, compileError, redefinitionError, agentUnavailable]

def read : JsonText.Reader SwapStatus := JsonText.oneName (all.map fun s => (s.name, s))

end SwapStatus

structure ClassResult where
  className : String
  status : SwapStatus
  message : Option String := none
  deriving DecidableEq, Repr

namespace ClassResult

def json (r : ClassResult) : Json :=
  .object ([("className", .string r.className), ("status", .string r.status.name)]
    ++ Json.optional "message" (r.message.map .string))

def fields : List JsonText.Field :=
  [JsonText.need "className" JsonText.string, JsonText.need "status" SwapStatus.read,
    JsonText.allow "message" JsonText.string]

def read : JsonText.Reader ClassResult := fun depth t => do
  let found ← JsonText.record "struct HotSwapClassResult" fields depth t
  return ⟨← found.get "className" JsonText.string, ← found.get "status" SwapStatus.read,
    ← found.get? "message" JsonText.string⟩

end ClassResult

structure SwapReport where
  status : SwapStatus
  message : Option String
  classes : List ClassResult
  deriving DecidableEq, Repr

namespace SwapReport

def json (r : SwapReport) : Json :=
  .object ([("status", .string r.status.name)] ++ Json.optional "message" (r.message.map .string)
    ++ [("classes", .array (r.classes.map ClassResult.json))])

def fields : List JsonText.Field :=
  [JsonText.need "status" SwapStatus.read, JsonText.allow "message" JsonText.string,
    JsonText.need "classes" (JsonText.list ClassResult.read)]

def read : JsonText.Reader SwapReport := fun depth t => do
  let found ← JsonText.record "struct HotSwapReport" fields depth t
  return ⟨← found.get "status" SwapStatus.read, ← found.get? "message" JsonText.string,
    ← found.get "classes" (JsonText.list ClassResult.read)⟩

def uniform (status : SwapStatus) (message : Option String) (classes : List ClassName) :
    SwapReport :=
  ⟨status, message, classes.map fun c => { className := c.text, status }⟩

def compileFailed (classes : List ClassName) (message : String) : SwapReport :=
  uniform .compileError (some message) classes

def statusOf : UploadError → SwapStatus
  | .rejected _ | .emptyBatch | .archive _ => .redefinitionError
  | _ => .agentUnavailable

def ofUpload (classes : List ClassName) : Except UploadError UploadAck → SwapReport
  | .ok ack => uniform .success ack.message classes
  | .error e => uniform (statusOf e) (some e.message) classes

def isSuccess (r : SwapReport) : Bool := r.status == .success

end SwapReport

end ClassSwap
