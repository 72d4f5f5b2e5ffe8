import ClassSwap.FileTree
import ClassSwap.Json
import ClassSwap.Save.Naming
import ClassSwap.Toml.Decode
import ClassSwap.Toml.Document
import ClassSwap.Utf8
import ClassSwap.Duration

namespace ClassSwap

namespace Config

def Logging.standardLevel : String := "info"

def Logging.standardStderr : Bool := true

structure Logging where
  level : String := Logging.standardLevel
  json : Bool := false
  stderr : Bool := Logging.standardStderr
  file : Option String := none
  deriving DecidableEq, Repr

def Logging.withoutKeys : Logging := ⟨standardLevel, false, standardStderr, none⟩

def Agent.standardHost : String := "127.0.0.1"

def Agent.standardConnectTimeout : Nat := 5000

def Agent.standardRequestTimeout : Nat := 10000

def Agent.standardUploadTimeout : Nat := 30000

/-- Times are in milliseconds. -/
structure Agent where
  host : String := Agent.standardHost
  connectTimeout : Nat := Agent.standardConnectTimeout
  requestTimeout : Nat := Agent.standardRequestTimeout
  uploadTimeout : Nat := Agent.standardUploadTimeout
  deriving DecidableEq, Repr

def Agent.withoutKeys : Agent :=
  ⟨standardHost, standardConnectTimeout, standardRequestTimeout, standardUploadTimeout⟩

def Compile.standardJavac : String := "javac"

def Compile.standardTimeout : Nat := 60

/-- The time is in seconds. -/
structure Compile where
  javac : String := Compile.standardJavac
  release : Option String := none
  extraArgs : List String := []
  timeout : Nat := Compile.standardTimeout
  scratchDir : Option String := none
  deriving DecidableEq, Repr

def Compile.withoutKeys : Compile := ⟨standardJavac, none, [], standardTimeout, none⟩

def Save.standardSuffix : String := ClassName.classSuffix

structure Save where
  naming : Naming := .fullyQualified
  classSuffix : String := Save.standardSuffix
  outputDir : Option String := none
  deriving DecidableEq, Repr

def Save.withoutKeys : Save := ⟨.fullyQualified, standardSuffix, none⟩

end Config

structure Config where
  logging : Config.Logging := {}
  agent : Config.Agent := {}
  compile : Config.Compile := {}
  save : Config.Save := {}
  deriving DecidableEq, Repr

inductive ConfigError where
  | unreadable (path : String) (cause : OsError)
  | malformed
  | mismatch (m : Mismatch)
  | invalid (field reason : String)
  deriving DecidableEq, Repr

namespace ConfigError

def message : ConfigError → String
  | unreadable path cause => s!"failed to read config file {path}: " ++ cause.message
  | malformed => "failed to parse toml config: not a TOML document"
  | mismatch m => "failed to parse toml config: " ++ m.message
  | invalid field reason => s!"invalid value for `{field}`: {reason}"

def cause? : ConfigError → Option String
  | unreadable _ cause => some cause.message
  | _ => none

end ConfigError

namespace Config

open Toml (field)

def loggingFields : List (Toml.Field Logging) :=
  [field "level" Toml.string fun s v => { s with level := v },
    field "json" Toml.boolean fun s v => { s with json := v },
    field "stderr" Toml.boolean fun s v => { s with stderr := v },
    field "file" (Toml.present Toml.path) fun s v => { s with file := v }]

def agentFields : List (Toml.Field Agent) :=
  [field "host" Toml.string fun s v => { s with host := v },
    field "connect_timeout_ms" Toml.natural fun s v => { s with connectTimeout := v },
    field "request_timeout_ms" Toml.natural fun s v => { s with requestTimeout := v },
    field "upload_timeout_ms" Toml.natural fun s v => { s with uploadTimeout := v }]

def compileFields : List (Toml.Field Compile) :=
  [field "javac" Toml.string fun s v => { s with javac := v },
    field "release" (Toml.present Toml.string) fun s v => { s with release := v },
    field "extra_args" (Toml.list Toml.string) fun s v => { s with extraArgs := v },
    field "timeout_secs" Toml.natural fun s v => { s with timeout := v },
    field "scratch_dir" (Toml.present Toml.path) fun s v => { s with scratchDir := v }]

def namingNames : List (String × Naming) :=
  [Naming.fullyQualified, Naming.directories, Naming.custom].map fun n => (n.name, n)

def saveFields : List (Toml.Field Save) :=
  [field "naming" (Toml.oneName namingNames) fun s v => { s with naming := v },
    field "class_suffix" Toml.string fun s v => { s with classSuffix := v },
    field "output_dir" (Toml.present Toml.path) fun s v => { s with outputDir := v }]

def fields : List (Toml.Field Config) :=
  [field "logging" (Toml.record "struct LoggingConfig" loggingFields .withoutKeys) fun s v =>
      { s with logging := v },
    field "agent" (Toml.record "struct AgentConfig" agentFields .withoutKeys) fun s v =>
      { s with agent := v },
    field "compile" (Toml.record "struct CompileConfig" compileFields .withoutKeys) fun s v =>
      { s with compile := v },
    field "save" (Toml.record "struct SaveConfig" saveFields .withoutKeys) fun s v =>
      { s with save := v }]

def isBlankText (text : String) : Bool := (trimBlank text.toList).isEmpty

/-- What a configuration must satisfy beyond its types: whether it fails, the field and the reason,
in the order in which they are reported. -/
def checks (c : Config) : List (Bool × String × String) :=
  let positive := "must be greater than zero"
  let filled := "must not be empty"
  [(isBlankText c.agent.host, "agent.host", filled),
    (c.agent.connectTimeout == 0, "agent.connect_timeout_ms", positive),
    (c.agent.requestTimeout == 0, "agent.request_timeout_ms", positive),
    (c.agent.uploadTimeout == 0, "agent.upload_timeout_ms", positive),
    (isBlankText c.compile.javac, "compile.javac", filled),
    (c.compile.timeout == 0, "compile.timeout_secs", positive),
    (c.save.classSuffix.isEmpty, "save.class_suffix", filled)]

def validate (c : Config) : Except ConfigError Unit :=
  match c.checks.find? (·.1) with
  | some (_, field, reason) => .error (.invalid field reason)
  | none => .ok ()

def ofMembers (members : Toml.Members) : Except ConfigError Config :=
  match Toml.setMembers fields {} members with
  | .error m => .error (.mismatch m)
  | .ok c =>
    match c.validate with
    | .error e => .error e
    | .ok () => .ok c

def ofText (text : String) : Except ConfigError Config :=
  match Toml.parse? text with
  | none => .error .malformed
  | some members => ofMembers members

def load (tree : FileTree) (here : Place) (path : String) : Except ConfigError Config :=
  match tree.read here path with
  | .error e => .error (.unreadable path e)
  | .ok bytes =>
    match Utf8.toString? bytes with
    | none => .error (.unreadable path .notText)
    | some text => ofText text

def text? (value : Option String) : Json :=
  match value with
  | some text => .string text
  | none => .null

def Logging.members (c : Logging) : List (String × Json) :=
  [("level", .string c.level), ("json", .bool c.json), ("stderr", .bool c.stderr),
    ("file", text? c.file)]

def Agent.members (c : Agent) : List (String × Json) :=
  [("host", .string c.host), ("connect_timeout_ms", .natural c.connectTimeout),
    ("request_timeout_ms", .natural c.requestTimeout),
    ("upload_timeout_ms", .natural c.uploadTimeout)]

def Compile.members (c : Compile) : List (String × Json) :=
  [("javac", .string c.javac), ("release", text? c.release),
    ("extra_args", .array (c.extraArgs.map .string)), ("timeout_secs", .natural c.timeout),
    ("scratch_dir", text? c.scratchDir)]

def Save.members (c : Save) : List (String × Json) :=
  [("naming", .string c.naming.name), ("class_suffix", .string c.classSuffix),
    ("output_dir", text? c.outputDir)]

def json (c : Config) : Json :=
  .object [("logging", .object c.logging.members), ("agent", .object c.agent.members),
    ("compile", .object c.compile.members), ("save", .object c.save.members)]

end Config

end ClassSwap
