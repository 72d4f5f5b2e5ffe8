import ClassSwap.ClassFilter
import ClassSwap.CommandLine.Arguments
import ClassSwap.CommandLine.Console
import ClassSwap.Compile.Javac
import ClassSwap.Source.Package

namespace ClassSwap.CommandLine

/-- The machine that the program runs on; `σ` is the state of all that has to do with agents. -/
structure Machine (σ : Type) where
  host : Host
  files : FileTree
  /-- The channel that the settings lead to, and its state before the first call. -/
  connect : Config.Agent → Link σ × σ
  /-- The configuration to use when the arguments name none. -/
  configPath : Option String := none
  /-- What the environment adds to the configured log filter. -/
  logDirectives : Option String := none
  time : String

structure Finish (σ : Type) where
  files : FileTree
  /-- The state of the channel, unless the program ended before there was one. -/
  channel : Option σ
  exitCode : Nat
  stdout : String := ""
  stderr : String := ""

/-- A part of the work; its failure ends the program with a message. -/
abbrev Work (σ : Type) := ExceptT String (StateM (Console σ))

namespace Work

variable {σ : Type}

def print (line : String) : Work σ Unit := modify fun c => c.print line

def printJson (j : Json) : Work σ Unit := print j.prettyText

/-- Does something in a session and shows what comes out of it meanwhile. -/
def carryOut {α : Type} (f : Site σ → Done σ α) : Work σ α := do
  let c ← get
  let d := f c.site
  set (d.notices.foldl Console.notice { c with site := d.site })
  return d.value

/-- Something that must succeed; `context` says what it was for. -/
def orFail {ε α : Type} (message : ε → String) (context : String) : Except ε α → Work σ α
  | .ok a => return a
  | .error e => throw (context ++ message e)

def files : Work σ FileTree := do return (← get).site.files

def setFiles (files : FileTree) : Work σ Unit :=
  modify fun c => { c with site := { c.site with files } }

end Work

open Work

structure Setup (σ : Type) where
  host : Host
  link : Link σ
  config : Config
  json : Bool
  target : TargetChoice

namespace Setup

variable {σ : Type}

def here (s : Setup σ) : Place := s.host.directory

/-- JSON cannot show a path that is not Unicode. -/
def printPaths (s : Setup σ) (paths : List String) (j : Json) : Work σ Unit :=
  if paths.all s.host.isUnicode then printJson j
  else throw "path contains invalid UTF-8 characters"

def javac (s : Setup σ) : Javac :=
  let c := s.config.compile
  { program := c.javac, release := c.release, extraArgs := c.extraArgs, timeout := .ofSecs c.timeout
    scratchRoot := c.scratchDir }

/-- Opens a session with the target and binds it to an agent. -/
def openSession (s : Setup σ) (naming : Option Naming) : Work σ (Session σ) := do
  let (target, endpoint) ← orFail id "" (s.target.resolve s.config.agent)
  let session : Session σ :=
    { target
      link := s.link
      compiler := Javac.compiler s.host s.javac
      directory := s.here
      naming := naming.getD s.config.save.naming
      classSuffix := s.config.save.classSuffix
      uploadTimeout := .ofMillis s.config.agent.uploadTimeout }
  let attached ← carryOut (session.attach endpoint)
  orFail ChannelError.message ("failed to attach to " ++ target.text ++ ": ") attached
  return session

def loadSources (s : Setup σ) : List String → Work σ (List SourceUnit)
  | [] => return []
  | path :: rest => do
    let unit ← orFail OsError.message ("failed to read " ++ path ++ ": ")
      (Source.load (← files) s.here path)
    return unit :: (← loadSources s rest)

/-- Reads class files that are given as `name=path`. -/
def loadClassFiles (s : Setup σ) : List String → Work σ (List ClassFile)
  | [] => return []
  | spec :: rest => do
    match splitAtFirst '=' spec.toList with
    | none => throw ("expected FQN=PATH, got \x60" ++ spec ++ "\x60")
    | some (name, path) =>
      let path := String.ofList path
      let bytes ← orFail OsError.message ("failed to read " ++ path ++ ": ")
        ((← files).read s.here path)
      return ⟨⟨String.ofList (trimBlank name)⟩, bytes⟩ :: (← loadClassFiles s rest)

def entryText (e : ClassEntry) : String :=
  match e.loader with
  | some loader => e.name ++ " (" ++ loader ++ ")"
  | none => e.name

def classes (s : Setup σ) (filter : String) (loader : Option String) : Work σ Nat := do
  match ClassFilter.parse filter loader with
  | .error (.name fault) => throw ("invalid --filter: " ++ fault.message)
  | .error (.loader fault) => throw ("invalid --loader: " ++ fault.message)
  | .ok filter =>
    let session ← s.openSession none
    let listed ← carryOut session.listClasses
    let found := filter.apply (← orFail ChannelError.message "" listed)
    if s.json then printJson (.array (found.map ClassEntry.json))
    else found.forM fun e => print (entryText e)
    return 0

def bytes (s : Setup σ) (className : String) (out : Option String) : Work σ Nat := do
  let session ← s.openSession none
  let reply ← carryOut (session.fetchBytes ⟨className⟩)
  let fetched ← orFail ChannelError.message "" reply
  match out with
  | none => pure ()
  | some path =>
    let written ← orFail OsError.message ("failed to write " ++ path ++ ": ")
      ((← files).write s.here path fetched.bytes)
    setFiles written
  let name := fetched.className.text
  let size := fetched.bytes.length
  if s.json then
    s.printPaths out.toList (.object ([("class", .string name), ("size", .natural size)]
      ++ Json.optional "path" (out.map .string)))
  else
    let written := match out with
      | some path => " written to " ++ path
      | none => ""
    print (name ++ ": " ++ toString size ++ " bytes" ++ written)
  return 0

def init (s : Setup σ) (className : String) : Work σ Nat := do
  let session ← s.openSession none
  let reply ← carryOut (session.initClass ⟨className⟩)
  orFail ChannelError.message "" reply
  if s.json then printJson (.object [("class", .string className), ("initialized", .bool true)])
  else print ("initialized " ++ className)
  return 0

def failureText (r : SaveResult) : String := (r.failure.map OsError.message).getD ""

def saveJson (r : SaveReport) : Json :=
  .object [("saved", .natural r.saved), ("total", .natural r.total),
    ("lastPath", Config.text? r.lastPath),
    ("failures", .array (r.failures.map fun x =>
      .object [("class", .string x.className.text), ("path", .string x.path),
        ("error", .string (failureText x))]))]

def printSaveReport (s : Setup σ) (r : SaveReport) : Work σ Unit := do
  if s.json then s.printPaths (r.lastPath.toList ++ r.failures.map (·.path)) (saveJson r)
  else
    print r.statusLine
    r.failures.forM fun x =>
      print ("  " ++ x.className.text ++ ": " ++ x.path ++ " (" ++ failureText x ++ ")")

def compile (s : Setup σ) (sources : List String) (out : Option String) (naming : Option Naming) :
    Work σ Nat := do
  let units ← s.loadSources sources
  let base := (out.or s.config.save.outputDir).getD "."
  let session ← s.openSession naming
  match ← carryOut (session.compileAndSave units base) with
  | .ok report =>
    s.printSaveReport report
    return if report.outcome = .allSaved then 0 else 1
  | .error (.compile e) =>
    if s.json then printJson (.object [("error", .string e.message)]) else print e.message
    return 1
  | .error e => throw e.message

def printSwapReport (s : Setup σ) (r : SwapReport) : Work σ Unit := do
  if s.json then printJson r.json
  else
    print (match r.message with
      | some message => r.status.name ++ ": " ++ message
      | none => r.status.name)
    r.classes.forM fun c => print ("  " ++ c.status.name ++ " " ++ c.className)

def upload (s : Setup σ) (sources specs : List String) (boot : Bool) : Work σ Nat := do
  let report ←
    if !specs.isEmpty then
      let classFiles ← s.loadClassFiles specs
      let session ← s.openSession none
      let result ← carryOut (session.upload boot classFiles)
      pure (SwapReport.ofUpload (classFiles.map (·.className)) result)
    else if !sources.isEmpty then
      let units ← s.loadSources sources
      let session ← s.openSession none
      carryOut (session.compileAndUpload units boot)
    else throw "nothing to upload; pass source files or --class FQN=PATH"
  s.printSwapReport report
  return if report.isSuccess then 0 else 1

def halt (s : Setup σ) : Work σ Nat := do
  let session ← s.openSession none
  carryOut session.halt
  let target := session.target.text
  if s.json then printJson (.object [("halted", .bool true), ("target", .string target)])
  else print ("agent for " ++ target ++ " halted")
  return 0

/-- Carries out a command; the result is the exit code. -/
def execute (s : Setup σ) : Command → Work σ Nat
  | .classes filter loader => s.classes filter loader
  | .bytes className out => s.bytes className out
  | .init className => s.init className
  | .compile sources out naming => s.compile sources out naming
  | .upload sources specs boot => s.upload sources specs boot
  | .halt => s.halt

end Setup

def usage : String :=
  "Usage: hotline [--config <CONFIG>] [--json] <COMMAND>\n\n"
    ++ "Commands: classes, bytes, init, compile, upload, halt\n"

namespace Machine

variable {σ : Type}

def leave (m : Machine σ) (exitCode : Nat) (stdout stderr : String) : Finish σ :=
  ⟨m.files, none, exitCode, stdout, stderr⟩

/-- Why a configuration cannot be used, with the cause behind it. -/
def configMessage (path : String) (e : ConfigError) : String :=
  "failed to load config from " ++ path ++ ": " ++ e.message
    ++ (match e.cause? with
      | some cause => ": " ++ cause
      | none => "")

def config (m : Machine σ) (path : Option String) : Except String Config :=
  match path with
  | none => .ok {}
  | some path =>
    match Config.load m.files m.host.directory path with
    | .ok c => .ok c
    | .error e => .error (configMessage path e)

def carryOut (m : Machine σ) (i : Invocation) (config : Config) : Finish σ :=
  let (link, channel) := m.connect config.agent
  let start := Console.start config.logging m.logDirectives m.time m.host.directory
    { agents := channel, files := m.files }
  let setup : Setup σ := { host := m.host, link, config, json := i.json, target := i.target }
  let (result, c) := (setup.execute i.command).run.run start
  let (exitCode, c) :=
    match result with
    | .ok code => (code, c)
    | .error message => (2, c.complain message)
  ⟨c.site.files, some c.site.agents, exitCode, c.stdout, c.stderr⟩

def run (m : Machine σ) (arguments : List String) : Finish σ :=
  match parse arguments with
  | .error .version => m.leave 0 "hotline 0.1.0\n" ""
  | .error .help => m.leave 0 usage ""
  | .error .misuse => m.leave 2 "" ("error: the arguments do not fit\n\n" ++ usage)
  | .ok i =>
    match m.config (i.config.or m.configPath) with
    | .error message => m.leave 2 "" (message ++ "\n")
    | .ok config => m.carryOut i config

def commandPaths : Command → List String
  | .bytes _ out => out.toList
  | .compile sources out _ => sources ++ out.toList
  | .upload sources specs _ => sources ++ specs.filterMap fun spec =>
      (splitAtFirst '=' spec.toList).map fun parts => String.ofList parts.2
  | _ => []

def settingPaths (c : Config) : List String :=
  c.logging.file.toList ++ c.save.outputDir.toList ++ c.compile.scratchDir.toList

/-- The file that holds the configuration, if one is named. -/
def settingsFile? (m : Machine σ) (arguments : List String) : Option String :=
  match parse arguments with
  | .ok i => i.config.or m.configPath
  | .error _ => none

/-- All files and directories that a run may look at by name. -/
def namedPaths (m : Machine σ) (arguments : List String) : List String :=
  match parse arguments with
  | .error _ => []
  | .ok i =>
    match m.config (i.config.or m.configPath) with
    | .error _ => []
    | .ok c => m.host.temporary :: commandPaths i.command ++ settingPaths c

end Machine

end ClassSwap.CommandLine
