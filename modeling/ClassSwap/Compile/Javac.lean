import ClassSwap.Compile.Dependencies
import ClassSwap.Compile.Output
import ClassSwap.Compile.Pipeline
import ClassSwap.Host

namespace ClassSwap

structure Javac where
  program : String := "javac"
  release : Option String := none
  extraArgs : List String := []
  timeout : Duration := .ofSecs 60
  /-- Where scratch directories are made; by default among the temporary files. -/
  scratchRoot : Option String := none

namespace Javac

structure Bench (σ : Type) where
  state : σ
  files : FileTree
  utterances : List Utterance := []

abbrev Work (σ : Type) := ExceptT CompileError (StateM (Bench σ))

variable {σ : Type}

def utter (u : Utterance) : Work σ Unit :=
  modify fun b => { b with utterances := b.utterances ++ [u] }

def report (message : String) (fields : List (String × LogValue)) : Work σ Unit :=
  utter (.event ⟨.debug, Pipeline.area, message, fields⟩)

def breakdown {α : Type} (doing path : String) (cause : OsError) : Work σ α :=
  throw (.internal ("failed to " ++ doing ++ " " ++ path ++ ": " ++ cause.message))

def change (doing path : String) (f : FileTree → FileTree × Except OsError Unit) : Work σ Unit := do
  let b ← get
  match f b.files with
  | (files, .ok ()) => set { b with files }
  | (files, .error e) =>
    set { b with files }
    breakdown doing path e

structure Scratch where
  root : String
  deriving DecidableEq, Repr

namespace Scratch

def sources (s : Scratch) : String := Path.join s.root "src"

def classes (s : Scratch) : String := Path.join s.root "classpath"

def output (s : Scratch) : String := Path.join s.root "out"

def name (n : Nat) : String := "hotline-javac-" ++ Duration.padded 6 n

end Scratch

/-- The first number that is free for a scratch directory; there are more numbers than files. -/
def freeNumber (host : Host) (files : FileTree) (root : String) : Nat :=
  let isFree (n : Nat) : Bool :=
    match files.makeDirectory host.directory (Path.join root (Scratch.name n)) with
    | .error .alreadyExists => false
    | _ => true
  ((List.range (files.entries.length + 1)).find? isFree).getD 0

/-- Makes a scratch directory. The number in its name stands for a part drawn at random: all that is
made of the name is that it is free. -/
def makeScratch (host : Host) (settings : Javac) : Work σ Scratch := do
  let b ← get
  let root := host.absolute (settings.scratchRoot.getD host.temporary)
  let path := Path.join root (Scratch.name (freeNumber host b.files root))
  match b.files.makeDirectory host.directory path with
  | .ok files =>
    set { b with files }
    return ⟨path⟩
  | .error e =>
    throw (.internal
      ("failed to create scratch directory: " ++ e.message ++ " at path " ++ Quoted.text path))

def makeDirectory (host : Host) (path : String) : Work σ Unit :=
  change "create" path fun files => files.createAll host.directory path

def writeFile (host : Host) (path : String) (content : Bytes) : Work σ Unit :=
  change "write" path fun files => files.writeWithParents host.directory path content

/-- Where the source of a unit goes: the file is named after the outermost class. -/
def sourcePath (scratch : Scratch) (u : SourceUnit) : String :=
  Path.join scratch.sources (u.className.topLevel.internalName ++ ClassName.sourceSuffix)

def writeSources (host : Host) (scratch : Scratch) : List SourceUnit → Work σ (List String)
  | [] => return []
  | u :: rest => do
    let path := sourcePath scratch u
    writeFile host path (Utf8.ofString u.text)
    return path :: (← writeSources host scratch rest)

def resolve (provider : Provider σ) (c : ClassName) : Work σ (Except ProviderError Bytes) := do
  let b ← get
  let r := provider.resolve c b.state
  set { b with state := r.state, utterances := b.utterances ++ r.events.map Utterance.event }
  return r.result

/-- Fills the class directory. A class that the target does not have is left out with a warning. -/
def fillClasses (host : Host) (provider : Provider σ) (directory : String) :
    List ClassName → Work σ Unit
  | [] => return ()
  | c :: rest => do
    match ← resolve provider c with
    | .ok bytes => writeFile host (Path.join directory c.classFilePath) bytes
    | .error (.notFound c) =>
      utter (.line ("warning: " ++ c.text ++ " could not be fetched from the target"))
    | .error e => throw (.classpath e.message)
    fillClasses host provider directory rest

def materialize (host : Host) (provider : Provider σ) (directory : String)
    (wanted : List ClassName) : Work σ Unit := do
  report "materializing classpath" [("classes", .number wanted.length)]
  fillClasses host provider directory wanted

/-- Makes the directories of a compilation and writes its sources; tells where they are. -/
def layOut (host : Host) (units : List SourceUnit) (scratch : Scratch) : Work σ (List String) := do
  makeDirectory host scratch.sources
  makeDirectory host scratch.classes
  makeDirectory host scratch.output
  writeSources host scratch units

/-- All that is written before the compiler runs: the sources, and the classes that they depend
on. -/
def prepare (host : Host) (provider : Provider σ) (units : List SourceUnit) (scratch : Scratch) :
    Work σ (List String) := do
  let sources ← layOut host units scratch
  let b ← get
  materialize host provider scratch.classes (Dependencies.select units (provider.names b.state))
  return sources

def arguments (settings : Javac) (scratch : Scratch) (sources : List String) : List String :=
  ["-g", "-encoding", "UTF-8", "-d", scratch.output, "-classpath", scratch.classes]
    ++ (match settings.release with
      | some release => ["--release", release]
      | none => [])
    ++ settings.extraArgs ++ sources

def runCompiler (host : Host) (settings : Javac) (scratch : Scratch) (sources : List String) :
    Work σ Unit := do
  report "spawning javac"
    [("javac", .text settings.program), ("files", .number sources.length)]
  let b ← get
  match host.spawn b.files settings.program (settings.arguments scratch sources) with
  | .error e => breakdown "spawn" settings.program e
  | .ok run =>
    set { b with files := run.files }
    if settings.timeout.nanos ≤ run.took.nanos then
      throw (.failed ("javac timed out after " ++ settings.timeout.text))
    let stdout := CompilerOutput.lines run.stdout
    let stderr := CompilerOutput.lines run.stderr
    let written := stdout.map (Utterance.line · 1) ++ stderr.map (Utterance.line · 2)
    modify fun b => { b with utterances := b.utterances ++ written }
    if !run.succeeded then throw (.failed (CompilerOutput.failureText stdout stderr))

/-- The order of paths, part by part. -/
def placeLe : Place → Place → Bool
  | [], _ => true
  | _ :: _, [] => false
  | a :: as, b :: bs => if a = b then placeLe as bs else a ≤ b

def isClassFile (place : Place) : Bool :=
  match place.getLast? with
  | some name => (Path.splitName name).2 == some "class"
  | none => false

def classOfPlace (place : Place) : ClassName :=
  let last := (place.getLast?.getD "").toList
  let suffix := ClassName.classSuffix.toList
  let stem := if suffix.isSuffixOf last then last.take (last.length - suffix.length) else last
  ⟨".".intercalate (place.dropLast ++ [String.ofList stem])⟩

/-- The class of a file, by how its path goes on from that of the output directory. -/
def classOfPath? (output path : String) : Option ClassName :=
  match (Path.stripBase? output path).map (·.filter Path.isDown) with
  | some (name :: rest) => some (classOfPlace (name :: rest))
  | some [] => none
  | none => none

/-- The class files below a place, in the order of their paths. -/
def collect (files : FileTree) (place : Place) : List ClassFile :=
  let found := (files.filesBelow place).filter fun f => isClassFile f.1
  (found.mergeSort fun a b => placeLe a.1 b.1).map fun f => ⟨classOfPlace f.1, f.2⟩

def collectOutput (host : Host) (scratch : Scratch) : Work σ (List ClassFile) := do
  let b ← get
  match b.files.openDirectory host.directory scratch.output with
  | .error e =>
    throw (.internal ("failed to read compiled classes: " ++ e.message))
  | .ok place => return collect b.files place

def work (host : Host) (settings : Javac) (provider : Provider σ) (units : List SourceUnit)
    (scratch : Scratch) : Work σ (List ClassFile) := do
  let sources ← prepare host provider units scratch
  runCompiler host settings scratch sources
  collectOutput host scratch

def removeScratch (host : Host) (files : FileTree) (scratch : Scratch) : FileTree :=
  match files.locate host.directory scratch.root with
  | .ok at_ => files.removeAll at_.place
  | .error _ => files

/-- `javac` as a compiler. What it writes to its two outputs is written with two pens. -/
def compiler (host : Host) (settings : Javac) : Compiler σ := fun provider units state files =>
  match (makeScratch host settings).run.run { state, files } with
  | (.error e, b) =>
    { state := b.state
      files := b.files
      utterances := b.utterances
      ending := .returned (.error e) }
  | (.ok scratch, b) =>
    match (work host settings provider units scratch).run.run b with
    | (result, b) =>
      { state := b.state
        files := removeScratch host b.files scratch
        utterances := b.utterances
        ending := .returned result }

end Javac

end ClassSwap
