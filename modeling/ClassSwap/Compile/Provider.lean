import ClassSwap.Channel.Error
import ClassSwap.ClassName
import ClassSwap.Log
import ClassSwap.Table

namespace ClassSwap

/-- Why the bytes of a class cannot be had. -/
inductive ProviderError where
  | notFound (className : ClassName)
  | transport (className : ClassName) (cause : ChannelError)
  deriving DecidableEq, Repr

def ProviderError.message : ProviderError → String
  | notFound c => "class " ++ c.text ++ " is not available from the target"
  | transport c cause => "failed to fetch " ++ c.text ++ " from the target: " ++ cause.message

/-- The bytes of a class, or why they cannot be had, and what was reported on the way. -/
structure Resolution (σ : Type) where
  state : σ
  result : Except ProviderError Bytes
  events : List LogEvent := []

/-- A source of bytes. It may change its state with every question. -/
structure Provider (σ : Type) where
  names : σ → List ClassName
  resolve : ClassName → σ → Resolution σ

/-- A fixed set of classes, and how often it was asked. -/
structure FixedClasses where
  classes : Table ClassName Bytes
  resolutions : Nat := 0

namespace FixedClasses

def provider : Provider FixedClasses where
  names s := ClassName.sort s.classes.keys
  resolve c s :=
    { state := { s with resolutions := s.resolutions + 1 }
      result :=
        match s.classes.get? c with
        | some bytes => .ok bytes
        | none => .error (.notFound c) }

end FixedClasses

end ClassSwap
