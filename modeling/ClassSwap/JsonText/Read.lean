import ClassSwap.Decimal
import ClassSwap.JsonText.Scan

namespace ClassSwap.JsonText

/-- The text is not JSON, or it is and does not fit. -/
inductive Problem where
  | fault (f : Fault)
  | mismatch (m : Mismatch)
  deriving DecidableEq, Repr

abbrev Reading (α : Type) := Except Problem α

/-- Reads a value; the number is how many containers may still be entered, plus one. -/
abbrev Reader (α : Type) := Nat → Tree → Reading α

/-- Containers that may be nested, plus one. -/
def maxDepth : Nat := 128

def enter (depth : Nat) : Reading Nat :=
  if depth ≤ 1 then .error (.fault .malformed) else .ok (depth - 1)

def Number.shape : Number → Shape
  | .natural n => .natural n
  | .negative n => .negative n
  | .real x => .real (Decimal.Style.compact.text x)

/-- The report that a value is not what was expected. A faulty value is reported as such. -/
def wrongType (t : Tree) (expected : String) : Problem :=
  let wrong (s : Shape) : Problem := .mismatch (.invalidType s expected)
  match t with
  | .null => wrong .null
  | .bool b => wrong (.boolean b)
  | .number (.ok n) => wrong n.shape
  | .number (.error f) => .fault f
  | .string (.ok s) => wrong (.string s)
  | .string (.error f) => .fault f
  | .array .. => wrong .sequence
  | .object .. => wrong .map
  | .broken used _ _ => .fault used

/-- The end of a list as it is met after its last item. -/
def Closing.check : Closing → Reading Unit
  | .closed => .ok ()
  | .stray f | .dangling f => .error (.fault f)
  | .nameless _ => .error (.fault .malformed)

/-- The end of a list whose reader wants no further item. -/
def Closing.checkNoMore : Closing → Reading Unit
  | .closed => .ok ()
  | .stray f => .error (.fault f)
  | .dangling _ | .nameless _ => .error (.fault .malformed)

mutual

/-- Passes over a value. Only what is needed to find its end is looked at. -/
def skip : Tree → Reading Unit
  | .null | .bool _ | .number _ | .string _ => .ok ()
  | .broken _ _ skipped => .error (.fault skipped)
  | .array items closing => do skipItems items; closing.check
  | .object members closing => do skipMembers members; closing.check

def skipItems : List Tree → Reading Unit
  | [] => .ok ()
  | t :: ts => do skip t; skipItems ts

def skipMembers : List (Except Fault String × Tree) → Reading Unit
  | [] => .ok ()
  | (_, t) :: ts => do skip t; skipMembers ts

end

def ofFault {α : Type} : Except Fault α → Reading α
  | .ok a => .ok a
  | .error f => .error (.fault f)

mutual

/-- Reads a value of any type to keep it for later: everything in it must be in order. -/
def keep (depth : Nat) : Tree → Reading Unit
  | .null | .bool _ => .ok ()
  | .number n => do let _ ← ofFault n
  | .string s => do let _ ← ofFault s
  | .broken used _ _ => .error (.fault used)
  | .array items closing => do
    let depth ← enter depth
    keepItems depth items
    closing.check
  | .object members closing => do
    let depth ← enter depth
    keepMembers depth members
    closing.check

def keepItems (depth : Nat) : List Tree → Reading Unit
  | [] => .ok ()
  | t :: ts => do keep depth t; keepItems depth ts

def keepMembers (depth : Nat) : List (Except Fault String × Tree) → Reading Unit
  | [] => .ok ()
  | (name, t) :: ts => do
    let _ ← ofFault name
    keep depth t
    keepMembers depth ts

end

/-- A natural number of at most `max`. -/
def natural (max : Nat) (expected : String) : Reader Nat := fun _ t =>
  match t with
  | .number (.ok (.natural n)) =>
    if n ≤ max then .ok n else .error (.mismatch (.invalidValue (.natural n) expected))
  | .number (.ok (.negative n)) => .error (.mismatch (.invalidValue (.negative n) expected))
  | t => .error (wrongType t expected)

def word64 : Reader Nat := natural maxNatural "u64"

def word32 : Reader Nat := natural 4294967295 "u32"

def word16 : Reader Nat := natural 65535 "u16"

def string : Reader String := fun _ t =>
  match t with
  | .string (.ok s) => .ok s
  | t => .error (wrongType t "a string")

/-- `null` stands for no value. -/
def option {α : Type} (r : Reader α) : Reader (Option α) := fun depth t =>
  match t with
  | .null => .ok none
  | t => do return some (← r depth t)

def readItems {α : Type} (r : Reader α) (depth : Nat) : List Tree → Reading (List α)
  | [] => .ok []
  | t :: ts => do
    let a ← r depth t
    return a :: (← readItems r depth ts)

def list {α : Type} (r : Reader α) : Reader (List α) := fun depth t =>
  match t with
  | .array items closing => do
    let depth ← enter depth
    let values ← readItems r depth items
    closing.check
    return values
  | t => .error (wrongType t "a sequence")

def named {α : Type} (names : List (String × α)) (name : String) : Reading α :=
  match names.lookup name with
  | some a => .ok a
  | none => .error (.mismatch (.unknownVariant name (names.map (·.1))))

/-- One of several names, as a string or as an object with that name and the value `null`. -/
def oneName {α : Type} (names : List (String × α)) : Reader α := fun depth t =>
  match t with
  | .string s => do named names (← ofFault s)
  | .object members closing => do
    let _ ← enter depth
    match members with
    | [] =>
      match closing with
      | .stray f => throw (.fault f)
      | .nameless value => throw (wrongType value "variant identifier")
      | _ => throw (.fault .malformed)
    | (name, value) :: rest =>
      let found ← named names (← ofFault name)
      match value with
      | .null => pure ()
      | value => throw (wrongType value "unit")
      if rest.isEmpty then closing.checkNoMore else throw (.fault .malformed)
      return found
  | .broken _ f _ => .error (.fault f)
  | _ => .error (.fault .malformed)

/-- A member of a record: its name, whether it must be there, and what its value must be. -/
structure Field where
  name : String
  required : Bool
  check : Reader Unit

def need {α : Type} (name : String) (r : Reader α) : Field :=
  ⟨name, true, fun depth t => do let _ ← r depth t⟩

/-- A member that may be missing or `null`. -/
def allow {α : Type} (name : String) (r : Reader α) : Field :=
  ⟨name, false, fun depth t => do let _ ← option r depth t⟩

/-- The members of a record that have been found, and the depth to read them at. -/
structure Found where
  depth : Nat
  values : List (String × Tree)

/-- Goes through the members of an object. Unknown ones are passed over by `other`. -/
def collect (fields : List Field) (other : Reader Unit) (depth : Nat) (closing : Closing)
    (found : List (String × Tree)) : List (Except Fault String × Tree) → Reading Found
  | [] => do
    closing.check
    return ⟨depth, found⟩
  | (name, value) :: rest => do
    let name ← ofFault name
    match fields.find? (·.name == name) with
    | some field =>
      if found.any (·.1 == name) then throw (.mismatch (.duplicateField name))
      field.check depth value
      collect fields other depth closing (found ++ [(name, value)]) rest
    | none => do
      other depth value
      collect fields other depth closing found rest

/-- The first required field that has not been found. -/
def requireAll (found : Found) : List Field → Reading Unit
  | [] => .ok ()
  | field :: rest =>
    if field.required && !found.values.any (·.1 == field.name) then
      .error (.mismatch (.missingField field.name))
    else requireAll found rest

def elements (n : Nat) : String := if n = 1 then "1 element" else s!"{n} elements"

/-- Goes through the items of an array as the fields of a record in order. -/
def align (typeName : String) (total : Nat) (depth : Nat) (closing : Closing) (count : Nat)
    (found : List (String × Tree)) : List Field → List Tree → Reading Found
  | [], items => do
    if items.isEmpty then closing.checkNoMore else throw (.fault .malformed)
    return ⟨depth, found⟩
  | field :: fields, item :: items => do
    field.check depth item
    align typeName total depth closing (count + 1) (found ++ [(field.name, item)]) fields items
  | field :: fields, [] => do
    closing.check
    if field.required then
      throw (.mismatch (.invalidLength count (s!"{typeName} with " ++ elements total)))
    align typeName total depth closing (count + 1) found fields []

/-- The fields of a record, from an object or from an array in order. -/
def record (typeName : String) (fields : List Field) : Reader Found := fun depth t =>
  match t with
  | .object members closing => do
    let depth ← enter depth
    let found ← collect fields (fun _ t => skip t) depth closing [] members
    requireAll found fields
    return found
  | .array items closing => do
    let depth ← enter depth
    align typeName fields.length depth closing 0 [] fields items
  | t => .error (wrongType t typeName)

def Found.get {α : Type} (found : Found) (name : String) (r : Reader α) : Reading α :=
  match found.values.lookup name with
  | some t => r found.depth t
  | none => .error (.mismatch (.missingField name))

/-- A field that may be missing or `null`. -/
def Found.get? {α : Type} (found : Found) (name : String) (r : Reader α) : Reading (Option α) :=
  match found.values.lookup name with
  | some t => option r found.depth t
  | none => .ok none

/-- Reads a whole text; nothing but white space may follow the value. -/
def Document.read {α : Type} (d : Document) (r : Reader α) : Reading α := do
  let a ← r maxDepth d.root
  ofFault d.rest
  return a

def decode {α : Type} (r : Reader α) (bytes : Bytes) : Reading α := (scan bytes).read r

end ClassSwap.JsonText
