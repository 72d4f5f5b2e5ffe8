import ClassSwap.Compile.Pipeline

namespace ClassSwap

inductive CompileStep where
  | emit (line : String)
  /-- Asks for the bytes of a class and tells what came of it. -/
  | resolve (className : ClassName)
  | produce (file : ClassFile)
  /-- Makes a class file of the text of every unit. -/
  | echo
  /-- Tells the names of all classes that can be asked for. -/
  | listNames
  | collapse (text : Option String)
  | fail (e : CompileError)

namespace ScriptedCompiler

variable {σ : Type}

/-- Follows steps; `said` and `made` are what has come out so far. -/
def follow (provider : Provider σ) (units : List SourceUnit) (files : FileTree) (state : σ)
    (said : List Utterance) (made : List ClassFile) : List CompileStep → Performance σ
  | [] => { state, files, utterances := said, ending := .returned (.ok made) }
  | s :: rest =>
    match s with
    | .emit line => follow provider units files state (said ++ [.line line]) made rest
    | .resolve c =>
      let r := provider.resolve c state
      let said := said ++ r.events.map Utterance.event
      match r.result with
      | .ok bytes =>
        let line := "resolved " ++ c.text ++ " " ++ Bytes.toHex bytes
        follow provider units files r.state (said ++ [.line line]) made rest
      | .error (.notFound c) =>
        let line := (ProviderError.notFound c).message
        follow provider units files r.state (said ++ [.line line]) made rest
      | .error e =>
        let ending := .returned (.error (.classpath e.message))
        { state := r.state, files, utterances := said, ending }
    | .produce file => follow provider units files state said (made ++ [file]) rest
    | .echo =>
      let lines := units.map fun u => Utterance.line ("compiled " ++ u.className.text)
      let copies := units.map fun u => ClassFile.mk u.className (Utf8.ofString u.text)
      follow provider units files state (said ++ lines) (made ++ copies) rest
    | .listNames =>
      let lines := (provider.names state).map fun c => Utterance.line ("visible " ++ c.text)
      follow provider units files state (said ++ lines) made rest
    | .collapse text => { state, files, utterances := said, ending := .collapsed text }
    | .fail e => { state, files, utterances := said, ending := .returned (.error e) }

def compiler (steps : List CompileStep) : Compiler σ := fun provider units state files =>
  follow provider units files state [] [] steps

end ScriptedCompiler

end ClassSwap
