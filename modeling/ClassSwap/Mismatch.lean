import ClassSwap.Quoted

namespace ClassSwap

/-- What stands in a document, as far as a message tells. -/
inductive Shape where
  | boolean (value : Bool)
  | natural (value : Nat)
  | negative (magnitude : Nat)
  | real (text : String)
  | string (value : String)
  | null
  | sequence
  | map
  deriving DecidableEq, Repr

def Shape.describe : Shape → String
  | boolean true => "boolean `true`"
  | boolean false => "boolean `false`"
  | natural n => s!"integer `{n}`"
  | negative n => s!"integer `-{n}`"
  | real text => s!"floating point `{text}`"
  | string value => "string " ++ Quoted.text value
  | null => "null"
  | sequence => "sequence"
  | map => "map"

inductive Mismatch where
  | missingField (name : String)
  | duplicateField (name : String)
  | unknownField (name : String) (known : List String)
  | unknownVariant (name : String) (known : List String)
  | invalidType (found : Shape) (expected : String)
  | invalidValue (found : Shape) (expected : String)
  | invalidLength (count : Nat) (expected : String)
  | wantedStringOrTable
  | wantedOneElement (none : Bool)
  | expectedEmpty (what : String)
  | expectedTable (found : String)
  deriving DecidableEq, Repr

def oneOf : List String → String
  | [] => "nothing"
  | [a] => s!"`{a}`"
  | [a, b] => s!"`{a}` or `{b}`"
  | names => "one of " ++ ", ".intercalate (names.map fun n => s!"`{n}`")

def Mismatch.message : Mismatch → String
  | missingField name => s!"missing field `{name}`"
  | duplicateField name => s!"duplicate field `{name}`"
  | unknownField name known => s!"unknown field `{name}`, expected " ++ oneOf known
  | unknownVariant name known => s!"unknown variant `{name}`, expected " ++ oneOf known
  | invalidType found expected => "invalid type: " ++ found.describe ++ ", expected " ++ expected
  | invalidValue found expected => "invalid value: " ++ found.describe ++ ", expected " ++ expected
  | invalidLength count expected => s!"invalid length {count}, expected {expected}"
  | wantedStringOrTable => "wanted string or table"
  | wantedOneElement true => "wanted exactly 1 element, found 0 elements"
  | wantedOneElement false => "wanted exactly 1 element, more than 1 element"
  | expectedEmpty what => s!"expected empty {what}"
  | expectedTable found => s!"expected table, found {found}"

end ClassSwap
