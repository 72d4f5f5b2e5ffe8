import ClassSwap.JsonText.Read

namespace ClassSwap.JsonText

/-- One kind of a tagged value. A kind without fields takes any members. -/
structure Variant (α : Type) where
  tag : String
  label : String
  fields : List Field
  build : Found → Reading α

def pick {α : Type} (variants : List (Variant α)) (tag : String) : Reading (Variant α) :=
  match variants.find? (·.tag == tag) with
  | some v => .ok v
  | none => .error (.mismatch (.unknownVariant tag (variants.map (·.tag))))

def pickByName {α : Type} (variants : List (Variant α)) (t : Tree) : Reading (Variant α) :=
  match t with
  | .string (.ok s) => pick variants s
  | t => .error (wrongType t "variant identifier")

/-- A tag that has been kept is a string or the position of the kind. -/
def pickKept {α : Type} (variants : List (Variant α)) (t : Tree) : Reading (Variant α) :=
  match t with
  | .number (.ok (.natural n)) =>
    match variants[n]? with
    | some v => .ok v
    | none =>
      .error (.mismatch (.invalidValue (.natural n)
        s!"variant index 0 <= i < {variants.length}"))
  | t => pickByName variants t

def Variant.ofMembers {α : Type} (v : Variant α) (depth : Nat)
    (members : List (Except Fault String × Tree)) : Reading α := do
  if v.fields.isEmpty then v.build ⟨depth, []⟩
  else
    let found ← collect v.fields (fun _ _ => .ok ()) depth .closed [] members
    requireAll found v.fields
    v.build found

/-- The fields of a kind from items in order; `total` counts the fields. -/
def alignKept (label : String) (total depth count : Nat) (found : List (String × Tree)) :
    List Field → List Tree → Reading Found
  | [], [] => .ok ⟨depth, found⟩
  | [], items =>
    .error (.mismatch (.invalidLength (count + items.length) (elements total ++ " in sequence")))
  | field :: fields, item :: items => do
    field.check depth item
    alignKept label total depth (count + 1) (found ++ [(field.name, item)]) fields items
  | _ :: _, [] =>
    .error (.mismatch (.invalidLength count (s!"struct variant {label} with " ++ elements total)))

def Variant.ofItems {α : Type} (v : Variant α) (depth : Nat) (items : List Tree) : Reading α := do
  v.build (← alignKept v.label v.fields.length depth 0 [] v.fields items)

/-- Goes through members, keeping all but the tag. -/
def splitTag {α : Type} (tagName : String) (choose : Tree → Reading (Variant α)) (depth : Nat)
    (chosen : Option (Variant α)) (kept : List (Except Fault String × Tree)) :
    List (Except Fault String × Tree) →
    Reading (Option (Variant α) × List (Except Fault String × Tree))
  | [] => .ok (chosen, kept)
  | (name, value) :: rest => do
    let text ← ofFault name
    if text == tagName then
      if chosen.isSome then throw (.mismatch (.duplicateField tagName))
      let v ← choose value
      splitTag tagName choose depth (some v) kept rest
    else
      keep depth value
      splitTag tagName choose depth chosen (kept ++ [(name, value)]) rest

/-- A tagged value from members that are all in order, as those left over by an enclosing record. -/
def taggedOfMembers {α : Type} (tagName : String) (variants : List (Variant α)) (depth : Nat)
    (members : List (Except Fault String × Tree)) : Reading α := do
  let (chosen, kept) ← splitTag tagName (pickKept variants) depth none [] members
  match chosen with
  | some v => v.ofMembers depth kept
  | none => throw (.mismatch (.missingField tagName))

def tagged {α : Type} (typeName tagName : String) (variants : List (Variant α)) : Reader α :=
  fun depth t =>
  match t with
  | .object members closing => do
    let depth ← enter depth
    let (chosen, kept) ← splitTag tagName (pickByName variants) depth none [] members
    closing.check
    match chosen with
    | some v => v.ofMembers depth kept
    | none => throw (.mismatch (.missingField tagName))
  | .array items closing => do
    let depth ← enter depth
    match items with
    | [] => do
      closing.check
      throw (.mismatch (.missingField tagName))
    | first :: rest => do
      let v ← pickByName variants first
      keepItems depth rest
      closing.check
      v.ofItems depth rest
  | t => .error (wrongType t ("internally tagged enum " ++ typeName))

end ClassSwap.JsonText
