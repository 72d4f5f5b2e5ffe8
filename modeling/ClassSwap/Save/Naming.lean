import ClassSwap.Blank
import ClassSwap.ClassName

namespace ClassSwap

inductive Naming where
  /-- One file per class, named in full, side by side. -/
  | fullyQualified
  | directories
  | custom
  deriving DecidableEq, Repr

namespace Naming

def name : Naming → String
  | fullyQualified => "fully-qualified"
  | directories => "src-subdirs"
  | custom => "custom"

def resolve (strategy : Naming) (base : String) (className : ClassName) (suffix : String) :
    String :=
  match strategy with
  | fullyQualified => Path.join base (className.text ++ suffix)
  | directories => Path.join base (className.internalName ++ suffix)
  | custom => base

def spellings : List (String × Naming) :=
  [("fully-qualified", fullyQualified), ("fq", fullyQualified), ("src-subdirs", directories),
    ("subdirs", directories), ("custom", custom)]

/-- Reads a spelling in any case, with `_` for `-` and white space around it. -/
def ofText? (text : String) : Option Naming :=
  let plain := (lowerAscii (trimmed text)).toList
  spellings.lookup (String.ofList (replaceChar '_' '-' plain))

def unknownMessage (text : String) : String :=
  s!"unknown naming strategy `{text}` (expected fully-qualified, src-subdirs or custom)"

end Naming

end ClassSwap
