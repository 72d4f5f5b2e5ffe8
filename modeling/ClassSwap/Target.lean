import ClassSwap.Json
import ClassSwap.JsonText.Tagged

namespace ClassSwap

structure Endpoint where
  host : String
  port : UInt16
  deriving DecidableEq, Repr

inductive Target where
  | process (pid : UInt32)
  | remote (host : String) (port : UInt16)
  | fileSystem
  deriving DecidableEq, Repr

inductive Scope where
  | boot
  | app
  deriving DecidableEq, Repr

namespace Scope

def standard : Scope := .app

def ofBoot (boot : Bool) : Scope := if boot then .boot else .app

def name : Scope → String
  | boot => "boot"
  | app => "app"

def read : JsonText.Reader Scope := JsonText.oneName [("boot", boot), ("app", app)]

end Scope

namespace Endpoint

def text (e : Endpoint) : String := e.host ++ ":" ++ toString e.port.toNat

def json (e : Endpoint) : Json :=
  .object [("host", .string e.host), ("port", .natural e.port.toNat)]

def readPort : JsonText.Reader UInt16 := fun depth t => do
  return UInt16.ofNat (← JsonText.word16 depth t)

def fields : List JsonText.Field :=
  [JsonText.need "host" JsonText.string, JsonText.need "port" readPort]

def read : JsonText.Reader Endpoint := fun depth t => do
  let found ← JsonText.record "struct Endpoint" fields depth t
  return ⟨← found.get "host" JsonText.string, ← found.get "port" readPort⟩

end Endpoint

namespace Target

def isFileSystem : Target → Bool
  | fileSystem => true
  | _ => false

def endpoint? : Target → Option Endpoint
  | remote host port => some ⟨host, port⟩
  | _ => none

def text : Target → String
  | process pid => "pid " ++ toString pid.toNat
  | remote host port => (Endpoint.mk host port).text
  | fileSystem => "filesystem"

def kindJson : Target → Json
  | process pid => .object [("kind", .string "local"), ("pid", .natural pid.toNat)]
  | remote host port =>
    .object [("kind", .string "remote"), ("host", .string host), ("port", .natural port.toNat)]
  | fileSystem => .object [("kind", .string "fs")]

def json (t : Target) : Json := .object [("kind", t.kindJson)]

def readPid : JsonText.Reader UInt32 := fun depth t => do
  return UInt32.ofNat (← JsonText.word32 depth t)

def kinds : List (JsonText.Variant Target) :=
  [⟨"local", "TargetKind::Local", [JsonText.need "pid" readPid],
      fun found => do return process (← found.get "pid" readPid)⟩,
    ⟨"remote", "TargetKind::Remote",
      [JsonText.need "host" JsonText.string, JsonText.need "port" Endpoint.readPort],
      fun found => do
        return remote (← found.get "host" JsonText.string) (← found.get "port" Endpoint.readPort)⟩,
    ⟨"fs", "TargetKind::Fs", [], fun _ => .ok fileSystem⟩]

def readKind : JsonText.Reader Target := JsonText.tagged "TargetKind" "kind" kinds

def read : JsonText.Reader Target := fun depth t => do
  let found ← JsonText.record "struct TargetHandle" [JsonText.need "kind" readKind] depth t
  found.get "kind" readKind

end Target

end ClassSwap
