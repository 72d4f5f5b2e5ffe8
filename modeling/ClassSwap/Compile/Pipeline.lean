import ClassSwap.Compile.Listening
import ClassSwap.Compile.Outcome
import ClassSwap.Compile.Provider
import ClassSwap.FileTree

namespace ClassSwap

/-- All of a compiler's work: what it lets out, how it ends, and the world it leaves behind. -/
structure Performance (σ : Type) where
  state : σ
  files : FileTree
  utterances : List Utterance
  ending : CompilerEnd
  /-- What those who still have one of its pens let out after its end. -/
  belated : List Utterance := []

/-- A compiler: it works on units, may ask a provider for bytes, and may use files. -/
abbrev Compiler (σ : Type) := Provider σ → List SourceUnit → σ → FileTree → Performance σ

structure Compilation (σ : Type) where
  state : σ
  files : FileTree
  outcome : CompileOutcome
  reports : List Report

namespace Pipeline

def area : String := "hotline.compile"

def collapseText (text : Option String) : String := text.getD "<non-string panic payload>"

/-- Class files in the order of their names; files of one name keep their order. -/
def sortFiles (files : List ClassFile) : List ClassFile :=
  files.mergeSort fun a b => ClassName.le a.className b.className

def judge : CompilerEnd → Except CompileError (List ClassFile)
  | .returned (.ok []) => .error (.failed "compiler produced no class files")
  | .returned (.ok files) => .ok (sortFiles files)
  | .returned (.error e) => .error e
  | .collapsed text => .error (.internal ("compiler panicked: " ++ collapseText text))

def collapseEvents : CompilerEnd → List LogEvent
  | .collapsed text =>
    [⟨.error, area, "compiler backend panicked", [("message", .text (collapseText text))]⟩]
  | .returned _ => []

def outcomeEvent (o : CompileOutcome) : LogEvent :=
  match o.result with
  | .ok files => ⟨.info, area, "compilation finished", [("artifacts", .number files.length)]⟩
  | .error e =>
    ⟨.info, area, "compilation finished with errors", [("error", .text e.message)]⟩

def namesText (names : List String) : String :=
  "[" ++ ", ".intercalate (names.map Quoted.text) ++ "]"

/-- Without any units the compiler is not even started. -/
def nothingToCompile {σ : Type} (state : σ) (files : FileTree) : Compilation σ :=
  let outcome : CompileOutcome := ⟨.error (.invalidInput "nothing to compile"), []⟩
  ⟨state, files, outcome, [.event (outcomeEvent outcome), .finished outcome]⟩

def compileAt {σ : Type} (pace : Pace) (compiler : Compiler σ) (provider : Provider σ)
    (units : List SourceUnit) (state : σ) (files : FileTree) : Compilation σ :=
  if units.isEmpty then nothingToCompile state files
  else
    let p := compiler provider units state files
    let heard := Listening.attend pace p.utterances p.ending p.belated
    let ending :=
      heard.noticed?.get (by simp only [heard, Listening.noticed?_attend, Option.isSome_some])
    let outcome : CompileOutcome := ⟨judge ending, heard.log⟩
    let started : LogEvent :=
      ⟨.debug, area, "compiling", [("classes", .text (namesText (units.map (·.className.text))))]⟩
    ⟨p.state, p.files, outcome,
      .event started :: heard.reports ++ (collapseEvents ending).map .event
        ++ [.event (outcomeEvent outcome), .finished outcome]⟩

/-- Compiles units, with a listener that hears each line before anything else happens. -/
def compile {σ : Type} : Compiler σ → Provider σ → List SourceUnit → σ → FileTree → Compilation σ :=
  compileAt .prompt

end Pipeline

end ClassSwap
