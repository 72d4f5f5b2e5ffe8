import ClassSwap.ClassName

namespace ClassSwap

inductive CompileError where
  | invalidInput (text : String)
  /-- The compiler ran and rejected the sources. -/
  | failed (text : String)
  /-- A dependency could not be had from the target. -/
  | classpath (text : String)
  | internal (text : String)
  deriving DecidableEq, Repr

def CompileError.message : CompileError → String
  | invalidInput text => "invalid compile input: " ++ text
  | failed text => "compilation failed:\n" ++ text
  | classpath text => "could not build the classpath: " ++ text
  | internal text => "compiler backend error: " ++ text

structure CompileOutcome where
  result : Except CompileError (List ClassFile)
  log : List String

namespace CompileOutcome

def isSuccess (o : CompileOutcome) : Bool :=
  match o.result with
  | .ok _ => true
  | .error _ => false

def classFiles (o : CompileOutcome) : List ClassFile :=
  match o.result with
  | .ok files => files
  | .error _ => []

def error? (o : CompileOutcome) : Option CompileError :=
  match o.result with
  | .ok _ => none
  | .error e => some e

end CompileOutcome

end ClassSwap
