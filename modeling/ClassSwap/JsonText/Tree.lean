import ClassSwap.Mismatch

namespace ClassSwap.JsonText

/-- A text that is not JSON: something is wrong, or it ends too early. -/
inductive Fault where
  | malformed
  | truncated
  deriving DecidableEq, Repr

inductive Number where
  | natural (value : Nat)
  | negative (magnitude : Nat)
  | real (value : Float)
  deriving Repr

mutual

inductive Tree where
  | null
  | bool (value : Bool)
  | number (value : Except Fault Number)
  | string (value : Except Fault String)
  | array (items : List Tree) (closing : Closing)
  | object (members : List (Except Fault String × Tree)) (closing : Closing)
  /-- Nothing can be read here: the fault for a reader, for a reader of a name only, and for one
  that skips the value. -/
  | broken (used : Fault) (named : Fault) (skipped : Fault)

inductive Closing where
  | closed
  /-- No comma and no closing bracket where one is due. -/
  | stray (fault : Fault)
  /-- A comma with no item or member after it. -/
  | dangling (fault : Fault)
  /-- The first member has a value in place of its name. -/
  | nameless (value : Tree)

end

/-- A scanned text, and what stands after its value. -/
structure Document where
  root : Tree
  rest : Except Fault Unit

end ClassSwap.JsonText
