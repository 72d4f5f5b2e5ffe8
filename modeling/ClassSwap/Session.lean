import ClassSwap.Link
import ClassSwap.Compile.Pipeline
import ClassSwap.Save.Batch
import ClassSwap.Upload.Report

namespace ClassSwap

inductive SessionEvent where
  | diagnostic (line : String)
  | compileFinished (success : Bool)
  | saveFinished (saved total : Nat) (lastPath : Option String)
  | uploadFinished (result : Except UploadError UploadAck)

/-- Something that comes out of a session while it works, for the log or for those who follow it. -/
inductive Notice where
  | event (e : LogEvent)
  | told (e : SessionEvent)

inductive SessionError where
  | compile (e : CompileError)
  | ambiguous (e : AmbiguousTarget)
  deriving DecidableEq, Repr

def SessionError.message : SessionError → String
  | compile e => e.message
  | ambiguous e => e.message

structure Site (σ : Type) where
  agents : σ
  files : FileTree
  archives : Nat := 0

structure Session (σ : Type) where
  target : Target
  link : Link σ
  compiler : Compiler σ
  /-- How closely the compiler is listened to. -/
  pace : Pace := .prompt
  /-- The working directory, which relative paths start from. -/
  directory : Place
  naming : Naming := .fullyQualified
  classSuffix : String := ClassName.classSuffix
  uploadTimeout : Duration
  packer : Zip.Packer := .storing

structure Done (σ α : Type) where
  site : Site σ
  value : α
  notices : List Notice := []

namespace Session

variable {σ : Type}

def area : String := "hotline.hotswap"

/-- Binds the session to an agent: the one at the endpoint, or the one that the target names. -/
def attach (s : Session σ) (endpoint : Option Endpoint) (site : Site σ) :
    Done σ (Except ChannelError Unit) :=
  if s.target.isFileSystem then ⟨site, .ok (), []⟩
  else
    match endpoint.or s.target.endpoint? with
    | none => ⟨site, .error (.detached s.target), []⟩
    | some endpoint =>
      let a := s.link.attach s.target endpoint site.agents
      ⟨{ site with agents := a.state }, a.result, a.events.map .event⟩

def request {α : Type} (f : σ → Answer σ α) (site : Site σ) : Done σ (Except ChannelError α) :=
  let a := f site.agents
  ⟨{ site with agents := a.state }, a.result, a.events.map .event⟩

def listClasses (s : Session σ) : Site σ → Done σ (Except ChannelError (List ClassEntry)) :=
  request (s.link.listClasses s.target)

def fetchBytes (s : Session σ) (c : ClassName) : Site σ → Done σ (Except ChannelError ClassFile) :=
  request (s.link.fetchBytes s.target c)

def initClass (s : Session σ) (c : ClassName) : Site σ → Done σ (Except ChannelError Unit) :=
  request (s.link.initClass s.target c)

def halt (s : Session σ) (site : Site σ) : Done σ Unit :=
  let (agents, events) := s.link.halt s.target site.agents
  ⟨{ site with agents }, (), events.map .event⟩

/-- Whether the target has to be asked for its classes before anything is compiled against it. -/
def needsListing (s : Session σ) (site : Site σ) : Bool :=
  let standing := s.link.standing site.agents s.target
  !s.target.isFileSystem && standing.isAttached && standing.generation == 0

def ensureListing (s : Session σ) (site : Site σ) : Done σ Unit :=
  if s.needsListing site then
    let d := s.listClasses site
    let trouble : List Notice :=
      match d.value with
      | .ok _ => []
      | .error e =>
        [.event ⟨.warn, area, "could not list loaded classes; compiling without them",
          [("target", .text s.target.text), ("error", .text e.message)]⟩]
    ⟨d.site, (), d.notices ++ trouble⟩
  else ⟨site, (), []⟩

def noticeOf : Report → Notice
  | .diagnostic line => .told (.diagnostic line)
  | .finished o => .told (.compileFinished o.isSuccess)
  | .event e => .event e

def compile (s : Session σ) (units : List SourceUnit) (site : Site σ) : Done σ CompileOutcome :=
  let listed := s.ensureListing site
  let site := listed.site
  let c :=
    Pipeline.compileAt s.pace s.compiler (s.link.provider s.target) units site.agents site.files
  ⟨{ site with agents := c.state, files := c.files }, c.outcome,
    listed.notices ++ c.reports.map noticeOf⟩

/-- Announces what became of a batch of `total` files. -/
def announceSave (total : Nat) : Except AmbiguousTarget SaveReport → List Notice
  | .ok r =>
    (Save.reportEvents r).map .event ++ [.told (.saveFinished r.saved r.total r.lastPath)]
  | .error e =>
    [.event ⟨.warn, area, "save failed", [("error", .text e.message)]⟩,
      .told (.saveFinished 0 total none)]

def saveResult : Except AmbiguousTarget SaveReport → Except SessionError SaveReport
  | .ok r => .ok r
  | .error e => .error (.ambiguous e)

def saveClassFiles (s : Session σ) (base : String) (files : List ClassFile) (site : Site σ) :
    Done σ (Except SessionError SaveReport) :=
  let (tree, result) :=
    Save.writeClassFiles site.files s.directory base s.naming s.classSuffix files
  ⟨{ site with files := tree }, saveResult result, announceSave files.length result⟩

def saveSources (s : Session σ) (units : List SourceUnit) (base : String) (site : Site σ) :
    Done σ (Except SessionError SaveReport) :=
  let (tree, result) := Save.writeSources site.files s.directory base s.naming units
  ⟨{ site with files := tree }, saveResult result, announceSave units.length result⟩

/-- Compiles, and writes the class files if there are any. -/
def compileAndSave (s : Session σ) (units : List SourceUnit) (base : String) (site : Site σ) :
    Done σ (Except SessionError SaveReport) :=
  let c := s.compile units site
  match c.value.result with
  | .error e => ⟨c.site, .error (.compile e), c.notices⟩
  | .ok files =>
    let d := s.saveClassFiles base files c.site
    ⟨d.site, d.value, c.notices ++ d.notices⟩

/-- Sends a payload and waits for the agent to accept it. -/
def sendPayload (s : Session σ) (p : Payload) (scope : Scope) (files : List ClassFile)
    (site : Site σ) : Done σ (Except UploadError UploadAck) :=
  let about : String × LogValue := ("target", .text s.target.text)
  let started : LogEvent := ⟨.info, area, "uploading classes",
    [about, ("scope", .text scope.name), ("name", .text p.name), ("classes", .number files.length)]⟩
  let (agents, outcome, events) :=
    s.link.call s.target (.send p.command s.uploadTimeout) site.agents
  let done (value : Except UploadError UploadAck) (more : List LogEvent) :
      Done σ (Except UploadError UploadAck) :=
    ⟨{ site with agents }, value, (started :: events ++ more).map .event⟩
  match outcome with
  | .failed e =>
    let e := UploadError.ofChannel e
    done (.error e) [⟨.warn, area, "upload failed",
      [about, ("name", .text p.name), ("error", .text e.message)]⟩]
  | .answered (.ack message) =>
    done (.ok ⟨p.name, files.map (·.className), p.isArchive, message⟩) []
  | _ => done (.error (.protocolMismatch "unexpected reply to upload")) []

def transmit (s : Session σ) (boot : Bool) (files : List ClassFile) (site : Site σ) :
    Done σ (Except UploadError UploadAck) :=
  let scope := Scope.ofBoot boot
  let number := if 1 < files.length then site.archives else 0
  let site := if 1 < files.length then { site with archives := site.archives + 1 } else site
  match Payload.build scope files number s.packer with
  | .error e => ⟨site, .error e, []⟩
  | .ok p => s.sendPayload p scope files site

/-- Redefines classes in the target, and announces what became of it. -/
def upload (s : Session σ) (boot : Bool) (files : List ClassFile) (site : Site σ) :
    Done σ (Except UploadError UploadAck) :=
  let d := s.transmit boot files site
  ⟨d.site, d.value, d.notices ++ [.told (.uploadFinished d.value)]⟩

def compileAndUpload (s : Session σ) (units : List SourceUnit) (boot : Bool) (site : Site σ) :
    Done σ SwapReport :=
  let c := s.compile units site
  match c.value.result with
  | .error e =>
    ⟨c.site, SwapReport.compileFailed (units.map (·.className)) e.message, c.notices⟩
  | .ok files =>
    let d := s.upload boot files c.site
    ⟨d.site, SwapReport.ofUpload (files.map (·.className)) d.value, c.notices ++ d.notices⟩

end Session

end ClassSwap
