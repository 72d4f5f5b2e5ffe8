import ClassSwap.Pattern.Parse
import ClassSwap.Wire.Message

namespace ClassSwap

structure ClassFilter where
  name : Pattern.Expr
  loader : Option Pattern.Expr

inductive FilterFault where
  | name (fault : Pattern.Fault)
  | loader (fault : Pattern.Fault)
  deriving DecidableEq, Repr

namespace ClassFilter

def parse (name : String) (loader : Option String) : Except FilterFault ClassFilter :=
  match Pattern.parse name with
  | .error e => .error (.name e)
  | .ok nameExpr =>
    match loader with
    | none => .ok ⟨nameExpr, none⟩
    | some text =>
      match Pattern.parse text with
      | .error e => .error (.loader e)
      | .ok loaderExpr => .ok ⟨nameExpr, some loaderExpr⟩

/-- Whether a class passes. One whose loader is unknown passes no pattern for loaders. -/
def matches? (f : ClassFilter) (e : ClassEntry) : Bool :=
  f.name.isMatch e.name
    && match f.loader, e.loader with
      | none, _ => true
      | some pattern, some loader => pattern.isMatch loader
      | some _, none => false

def apply (f : ClassFilter) (entries : List ClassEntry) : List ClassEntry :=
  entries.filter f.matches?

end ClassFilter

end ClassSwap
