import ClassSwap.CommandLine.Option
import ClassSwap.Config
import ClassSwap.Target

namespace ClassSwap.CommandLine

structure TargetChoice where
  pid : Option Nat := none
  host : Option String := none
  port : Option Nat := none
  fileSystem : Bool := false
  deriving DecidableEq, Repr

namespace TargetChoice

/-- The target, and the endpoint of its agent where the target itself does not name it. The host may
come from the configuration. -/
def resolve (choice : TargetChoice) (agent : Config.Agent) :
    Except String (Target × Option Endpoint) :=
  if choice.fileSystem then .ok (.fileSystem, none)
  else
    let host := choice.host.getD agent.host
    match choice.pid, choice.port with
    | some pid, some port =>
      .ok (.process (UInt32.ofNat pid), some ⟨host, UInt16.ofNat port⟩)
    | some pid, none => .error ("target pid " ++ toString pid ++ " needs --port for its agent")
    | none, some port => .ok (.remote host (UInt16.ofNat port), none)
    | none, none => .error "no target given; pass --port (with --pid or --host) or --fs"

end TargetChoice

inductive Command where
  /-- Lists loaded classes. -/
  | classes (filter : String) (loader : Option String)
  | bytes (className : String) (out : Option String)
  | init (className : String)
  /-- Compiles sources and saves the class files. -/
  | compile (sources : List String) (out : Option String) (naming : Option Naming)
  /-- Redefines classes from sources, or from class files that are each given as `name=path`. -/
  | upload (sources specs : List String) (boot : Bool)
  | halt
  deriving DecidableEq, Repr

structure Invocation where
  config : Option String := none
  json : Bool := false
  target : TargetChoice
  command : Command
  deriving DecidableEq, Repr

/-- Options that may stand before and behind the name of the command. -/
def globalForms : List OptionForm :=
  [{ name := "config", kind := .path }, { name := "json", kind := .flag }]

def targetForms : List OptionForm :=
  [{ name := "pid", kind := .number 4294967295 }, { name := "host", kind := .text },
    { name := "port", kind := .number 65535 }, { name := "fs", kind := .flag }]

def outForm : OptionForm := { name := "out", letter := some 'o', kind := .path }

def commandForms? (name : String) : Option (List OptionForm) :=
  match name with
  | "classes" => some [{ name := "filter", kind := .text }, { name := "loader", kind := .text }]
  | "bytes" => some [outForm]
  | "init" => some []
  | "compile" => some [outForm, { name := "naming", kind := .naming }]
  | "upload" =>
    some [{ name := "class", kind := .text, repeatable := true }, { name := "boot", kind := .flag }]
  | "halt" => some []
  | _ => none

def asksHelp (shape : Shape) : Bool :=
  match shape with
  | .long "help" none | .short 'h' _ => true
  | _ => false

def topSpecial (shape : Shape) : Option Stop :=
  if asksHelp shape then some .help
  else
    match shape with
    | .long "version" none | .short 'V' _ => some .version
    | _ => none

def commandSpecial (shape : Shape) : Option Stop := if asksHelp shape then some .help else none

def conflicts : List (String × String) :=
  [("pid", "host"), ("fs", "pid"), ("fs", "host"), ("fs", "port")]

def oneWord (words : List String) : Except Stop String :=
  match words with
  | [word] => .ok word
  | _ => .error .misuse

def commandOf (name : String) (g : Given) : Except Stop Command := do
  match name with
  | "classes" =>
    if !g.words.isEmpty then throw .misuse
    return .classes ((g.value? "filter").getD "") (g.value? "loader")
  | "bytes" => return .bytes (← oneWord g.words) (g.value? "out")
  | "init" => return .init (← oneWord g.words)
  | "compile" =>
    if g.words.isEmpty || g.words.contains "" then throw .misuse
    return .compile g.words (g.value? "out") ((g.value? "naming").bind Naming.ofText?)
  | "upload" =>
    if g.words.contains "" || (g.has "class" && !g.words.isEmpty) then throw .misuse
    return .upload g.words (g.values "class") (g.has "boot")
  | "halt" =>
    if !g.words.isEmpty then throw .misuse
    return .halt
  | _ => throw .misuse

def targetOf (g : Given) : TargetChoice :=
  { pid := (g.value? "pid").bind (natural? 4294967295)
    host := g.value? "host"
    port := (g.value? "port").bind (natural? 65535)
    fileSystem := g.has "fs" }

/-- Help may be asked for by name: about the program, or about one command. -/
def helpStop : List String → Stop
  | [] => .help
  | [name] => if name == "help" || (commandForms? name).isSome then .help else .misuse
  | _ => .misuse

/-- Reads the arguments of a command. What is given behind its name overrides what is given before
it. -/
def readCommand (outer : Given) (name : String) (arguments : List String) :
    Except Stop Invocation := do
  match commandForms? name with
  | none => throw (if name == "help" then helpStop arguments else .misuse)
  | some forms =>
    let r ← read (globalForms ++ targetForms ++ forms) commandSpecial false {} arguments
    let g := r.given
    if conflicts.any fun c => g.has c.1 && g.has c.2 then throw .misuse
    let command ← commandOf name g
    return {
      config := (g.value? "config").or (outer.value? "config")
      json := g.has "json" || outer.has "json"
      target := targetOf g
      command }

def parse (arguments : List String) : Except Stop Invocation := do
  let r ← read globalForms topSpecial true {} arguments
  match r.rest with
  | [] => throw .misuse
  | name :: rest => readCommand r.given name rest

end ClassSwap.CommandLine
