import ClassSwap.Toml.Node

namespace ClassSwap.Toml

abbrev Decoder (α : Type) := Node → Except Mismatch α

def wrongType {α : Type} (n : Node) (expected : String) : Except Mismatch α :=
  .error (.invalidType n.shape expected)

def textCalled (expected : String) : Decoder String
  | .string s => .ok s
  | n => wrongType n expected

def string : Decoder String := textCalled "a string"

def path : Decoder String := textCalled "path string"

def boolean : Decoder Bool
  | .boolean b => .ok b
  | n => wrongType n "a boolean"

/-- A natural number; integers beyond 63 bits are no TOML. -/
def natural : Decoder Nat
  | .integer n =>
    if 0 ≤ n then .ok n.toNat else .error (.invalidValue (.negative n.natAbs) "u64")
  | n => wrongType n "u64"

def present {α : Type} (d : Decoder α) : Decoder (Option α) := fun n => do return some (← d n)

def list {α : Type} (d : Decoder α) : Decoder (List α)
  | .array items => items.mapM d
  | .tables items => items.mapM fun members => d (.table .header members)
  | n => wrongType n "a sequence"

def named {α : Type} (names : List (String × α)) (name : String) : Except Mismatch α :=
  match names.lookup name with
  | some a => .ok a
  | none => .error (.unknownVariant name (names.map (·.1)))

/-- What stands under a name in a table must be empty. -/
def requireEmpty : Node → Except Mismatch Unit
  | .table _ members => if members.isEmpty then .ok () else .error (.expectedEmpty "table")
  | .array items => if items.isEmpty then .ok () else .error (.expectedEmpty "table")
  | .tables items => if items.isEmpty then .ok () else .error (.expectedEmpty "array")
  | n => .error (.expectedTable n.typeName)

/-- One of several names, as a string or as a table with that key alone. -/
def oneName {α : Type} (names : List (String × α)) : Decoder α
  | .string s => named names s
  | .table _ [] => .error (.wantedOneElement true)
  | .table _ [(name, value)] => do
    let a ← named names name
    requireEmpty value
    return a
  | .table .. => .error (.wantedOneElement false)
  | _ => .error .wantedStringOrTable

/-- A field of a record: its name, and how its value changes the record. -/
structure Field (α : Type) where
  name : String
  set : Node → α → Except Mismatch α

def field {α β : Type} (name : String) (d : Decoder β) (put : α → β → α) : Field α :=
  ⟨name, fun n a => do return put a (← d n)⟩

def setMembers {α : Type} (fields : List (Field α)) (a : α) : Members → Except Mismatch α
  | [] => .ok a
  | (key, value) :: rest => do
    match fields.find? (·.name == key) with
    | some f => setMembers fields (← f.set value a) rest
    | none => throw (.unknownField key (fields.map (·.name)))

/-- Sets fields from items in the order of the fields; items beyond the last field are ignored. -/
def setItems {α : Type} (a : α) : List (Field α) → List Node → Except Mismatch α
  | f :: fields, n :: items => do setItems (← f.set n a) fields items
  | _, _ => .ok a

def record {α : Type} (typeName : String) (fields : List (Field α)) (initial : α) : Decoder α
  | .table _ members => setMembers fields initial members
  | .array items => setItems initial fields items
  | .tables items => setItems initial fields (items.map (.table .header))
  | n => wrongType n typeName

end ClassSwap.Toml
