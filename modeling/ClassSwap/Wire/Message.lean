import ClassSwap.Target

namespace ClassSwap

abbrev RequestId := UInt64

/-- What an agent can be asked to do, without the operands. -/
inductive Action where
  | listClasses
  | fetchBytes
  | halt
  | initClass
  | uploadClass
  | uploadArchive
  deriving DecidableEq, Repr

/-- A command with its operands. Bodies are base64 text. -/
inductive Command where
  | listClasses
  | fetchBytes (className : String)
  | halt
  | initClass (className : String)
  | uploadClass (name body : String)
  | uploadArchive (name body : String)
  deriving DecidableEq, Repr

structure Request where
  id : RequestId
  host : String
  port : UInt16
  command : Command
  deriving DecidableEq, Repr

structure ClassEntry where
  name : String
  location : Option String := none
  loader : Option String := none
  deriving DecidableEq, Repr

inductive Status where
  | ok
  | error
  deriving DecidableEq, Repr

structure Response where
  id : RequestId
  action : Action
  status : Status
  classes : Option (List ClassEntry) := none
  className : Option String := none
  body : Option String := none
  message : Option String := none
  deriving DecidableEq, Repr

namespace Action

def name : Action → String
  | listClasses => "list_classes"
  | fetchBytes => "fetch_bytes"
  | halt => "halt"
  | initClass => "init_class"
  | uploadClass => "upload_class"
  | uploadArchive => "upload_archive"

def all : List Action := [listClasses, fetchBytes, halt, initClass, uploadClass, uploadArchive]

def read : JsonText.Reader Action := JsonText.oneName (all.map fun a => (a.name, a))

end Action

namespace Status

def name : Status → String
  | ok => "ok"
  | error => "error"

def read : JsonText.Reader Status := JsonText.oneName [("ok", ok), ("error", error)]

end Status

namespace ClassEntry

def json (e : ClassEntry) : Json :=
  .object ([("name", .string e.name)] ++ Json.optional "location" (e.location.map .string)
    ++ Json.optional "loader" (e.loader.map .string))

def fields : List JsonText.Field :=
  [JsonText.need "name" JsonText.string, JsonText.allow "location" JsonText.string,
    JsonText.allow "loader" JsonText.string]

def read : JsonText.Reader ClassEntry := fun depth t => do
  let found ← JsonText.record "struct ClassEntry" fields depth t
  return ⟨← found.get "name" JsonText.string, ← found.get? "location" JsonText.string,
    ← found.get? "loader" JsonText.string⟩

end ClassEntry

namespace Command

def action : Command → Action
  | listClasses => .listClasses
  | fetchBytes _ => .fetchBytes
  | halt => .halt
  | initClass _ => .initClass
  | uploadClass .. => .uploadClass
  | uploadArchive .. => .uploadArchive

def members (c : Command) : List (String × Json) :=
  ("action", .string c.action.name) ::
    match c with
    | listClasses | halt => []
    | fetchBytes className | initClass className => [("class", .string className)]
    | uploadClass name body | uploadArchive name body =>
      [("name", .string name), ("body", .string body)]

def json (c : Command) : Json := .object c.members

def classKind (tag label : String) (make : String → Command) : JsonText.Variant Command :=
  ⟨tag, label, [JsonText.need "class" JsonText.string],
    fun found => do return make (← found.get "class" JsonText.string)⟩

def bodyKind (tag label : String) (make : String → String → Command) :
    JsonText.Variant Command :=
  ⟨tag, label, [JsonText.need "name" JsonText.string, JsonText.need "body" JsonText.string],
    fun found => do
      return make (← found.get "name" JsonText.string) (← found.get "body" JsonText.string)⟩

def kinds : List (JsonText.Variant Command) :=
  [⟨"list_classes", "AgentCommand::ListClasses", [], fun _ => .ok listClasses⟩,
    classKind "fetch_bytes" "AgentCommand::FetchBytes" fetchBytes,
    ⟨"halt", "AgentCommand::Halt", [], fun _ => .ok halt⟩,
    classKind "init_class" "AgentCommand::InitClass" initClass,
    bodyKind "upload_class" "AgentCommand::UploadClass" uploadClass,
    bodyKind "upload_archive" "AgentCommand::UploadArchive" uploadArchive]

def read : JsonText.Reader Command := JsonText.tagged "AgentCommand" "action" kinds

/-- How diagnostics show a command: its operands, but of a body only the length in bytes. -/
def diagnostic : Command → String
  | listClasses => "ListClasses"
  | halt => "Halt"
  | fetchBytes className => "FetchBytes \x7b class: " ++ Quoted.text className ++ " \x7d"
  | initClass className => "InitClass \x7b class: " ++ Quoted.text className ++ " \x7d"
  | uploadClass name body =>
    "UploadClass \x7b name: " ++ Quoted.text name ++ ", body_len: " ++ toString body.utf8ByteSize
      ++ " \x7d"
  | uploadArchive name body =>
    "UploadArchive \x7b name: " ++ Quoted.text name ++ ", body_len: " ++ toString body.utf8ByteSize
      ++ " \x7d"

end Command

def readRequestId : JsonText.Reader RequestId := fun depth t => do
  return UInt64.ofNat (← JsonText.word64 depth t)

namespace Request

def json (r : Request) : Json :=
  .object ([("id", .natural r.id.toNat), ("host", .string r.host), ("port", .natural r.port.toNat)]
    ++ r.command.members)

def fields : List JsonText.Field :=
  [JsonText.need "id" readRequestId, JsonText.need "host" JsonText.string,
    JsonText.need "port" Endpoint.readPort]

def commandMembers (members : List (Except JsonText.Fault String × JsonText.Tree)) :
    List (Except JsonText.Fault String × JsonText.Tree) :=
  members.filter fun m =>
    match m.1 with
    | .ok name => !fields.any (·.name == name)
    | .error _ => false

/-- A request is an object only; its command's members stand beside its own. -/
def read : JsonText.Reader Request := fun depth t =>
  match t with
  | .object members closing => do
    let depth ← JsonText.enter depth
    let found ← JsonText.collect fields JsonText.keep depth closing [] members
    JsonText.requireAll found fields
    let command ← JsonText.taggedOfMembers "action" Command.kinds depth (commandMembers members)
    return ⟨← found.get "id" readRequestId, ← found.get "host" JsonText.string,
      ← found.get "port" Endpoint.readPort, command⟩
  | t => .error (JsonText.wrongType t "struct AgentRequest")

end Request

namespace Response

def accept (id : RequestId) (action : Action) : Response := { id, action, status := .ok }

def reject (id : RequestId) (action : Action) (message : String) : Response :=
  { id, action, status := .error, message := some message }

def isOk (r : Response) : Bool := r.status == .ok

def json (r : Response) : Json :=
  .object ([("id", .natural r.id.toNat), ("action", .string r.action.name),
      ("status", .string r.status.name)]
    ++ Json.optional "classes" (r.classes.map fun cs => .array (cs.map ClassEntry.json))
    ++ Json.optional "class" (r.className.map .string)
    ++ Json.optional "body" (r.body.map .string)
    ++ Json.optional "message" (r.message.map .string))

def fields : List JsonText.Field :=
  [JsonText.need "id" readRequestId, JsonText.need "action" Action.read,
    JsonText.need "status" Status.read, JsonText.allow "classes" (JsonText.list ClassEntry.read),
    JsonText.allow "class" JsonText.string, JsonText.allow "body" JsonText.string,
    JsonText.allow "message" JsonText.string]

def read : JsonText.Reader Response := fun depth t => do
  let found ← JsonText.record "struct AgentResponse" fields depth t
  return {
    id := ← found.get "id" readRequestId
    action := ← found.get "action" Action.read
    status := ← found.get "status" Status.read
    classes := ← found.get? "classes" (JsonText.list ClassEntry.read)
    className := ← found.get? "class" JsonText.string
    body := ← found.get? "body" JsonText.string
    message := ← found.get? "message" JsonText.string }

end Response

end ClassSwap
