import ClassSwap.Json

namespace ClassSwap

inductive LogLevel where
  | off
  | error
  | warn
  | info
  | debug
  | trace
  deriving DecidableEq, Repr

namespace LogLevel

def rank : LogLevel → Nat
  | off => 0
  | error => 1
  | warn => 2
  | info => 3
  | debug => 4
  | trace => 5

def name : LogLevel → String
  | off => "off"
  | error => "error"
  | warn => "warn"
  | info => "info"
  | debug => "debug"
  | trace => "trace"

def all : List LogLevel := [off, error, warn, info, debug, trace]

def max (a b : LogLevel) : LogLevel := if a.rank ≤ b.rank then b else a

def label (l : LogLevel) : String := String.ofList (l.name.toList.map Char.toUpper)

end LogLevel

inductive LogValue where
  | text (value : String)
  | number (value : Nat)
  | flag (value : Bool)
  deriving DecidableEq, Repr

namespace LogValue

def plain : LogValue → String
  | text s => s
  | number n => toString n
  | flag b => toString b

def json : LogValue → Json
  | text s => .string s
  | number n => .natural n
  | flag b => .bool b

end LogValue

structure LogEvent where
  level : LogLevel
  area : String
  message : String
  fields : List (String × LogValue)
  deriving DecidableEq, Repr

namespace LogEvent

/-- A field behind the message; one that is a message itself is shown without its name. -/
def fieldText (field : String × LogValue) : String :=
  if field.1 == "message" then " " ++ field.2.plain else " " ++ field.1 ++ "=" ++ field.2.plain

/-- The line of an event: time, level, area, message and fields. -/
def line (e : LogEvent) (time : String) : String :=
  let level := e.level.label
  time ++ " " ++ "".pushn ' ' (5 - level.length) ++ level ++ " " ++ e.area ++ ": " ++ e.message
    ++ String.join (e.fields.map fieldText) ++ "\n"

def jsonLine (e : LogEvent) (time : String) : String :=
  (Json.object [("timestamp", .string time), ("level", .string e.level.label),
    ("fields", .object (("message", .string e.message) :: e.fields.map fun f => (f.1, f.2.json))),
    ("target", .string e.area)]).text ++ "\n"

end LogEvent

end ClassSwap
