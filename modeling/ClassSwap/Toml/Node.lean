import ClassSwap.Mismatch
import ClassSwap.Decimal

namespace ClassSwap.Toml

inductive Origin where
  /-- It has a header of its own, or is the document itself. -/
  | header
  /-- Only a header of a table inside it has been met. -/
  | outerHeader
  | dottedKey
  | braces
  deriving DecidableEq, Repr

inductive Node where
  | string (value : String)
  | integer (value : Int)
  | real (value : Float)
  | boolean (value : Bool)
  | dateTime
  | array (items : List Node)
  | table (origin : Origin) (members : List (String × Node))
  /-- Tables that share a header in double brackets. -/
  | tables (items : List (List (String × Node)))

abbrev Members := List (String × Node)

namespace Node

def shape : Node → Shape
  | string s => .string s
  | integer n => if 0 ≤ n then .natural n.toNat else .negative n.natAbs
  | real x => .real (Decimal.Style.plain.text x)
  | boolean b => .boolean b
  | dateTime | table .. => .map
  | array _ | tables _ => .sequence

def typeName : Node → String
  | string _ => "string"
  | integer _ => "integer"
  | real _ => "float"
  | boolean _ => "boolean"
  | dateTime => "datetime"
  | array _ => "array"
  | table .braces _ => "inline table"
  | table .. => "table"
  | tables _ => "array of tables"

end Node

def replaceMember (members : Members) (key : String) (node : Node) : Members :=
  members.map fun m => if m.1 == key then (key, node) else m

/-- Changes the table that a path of keys leads to; missing tables on the way come about by it.
`dotted` tells a dotted key from a header. A header leads into the last one of several tables. A
dotted key cannot add to a table that has a header, nor anything to a table in braces. -/
def editAt (dotted : Bool) (change : Origin → Members → Option Members) :
    List String → Origin → Members → Option Members
  | [], origin, members => change origin members
  | key :: path, _, members =>
    match members.lookup key with
    | none => do
      let origin := if dotted then Origin.dottedKey else .outerHeader
      let inner ← editAt dotted change path origin []
      return members ++ [(key, .table origin inner)]
    | some (.table origin inner) =>
      if origin = .braces ∨ (dotted ∧ origin = .header) then none
      else do
        let inner ← editAt dotted change path origin inner
        return replaceMember members key (.table origin inner)
    | some (.tables items) =>
      match items.getLast? with
      | none => none
      | some last => do
        let inner ← editAt dotted change path .header last
        return replaceMember members key (.tables (items.dropLast ++ [inner]))
    | some _ => none

/-- Adds a value under a dotted key. Its table must have come about by dotted keys if the key has
dots, and must not otherwise; a key is given once. -/
def addPair (members : Members) (path : List String) (key : String) (node : Node) :
    Option Members :=
  editAt true
    (fun origin members =>
      if (origin == .dottedKey) == path.isEmpty || members.any (·.1 == key) then none
      else some (members ++ [(key, node)]))
    path .header members

/-- A document as far as it has been read: the settled part, and the table being read. -/
structure Draft where
  settled : Members
  current : Members
  /-- Where the current table belongs, the last key apart; `none` for the document itself. -/
  place : Option (List String × String)
  /-- Whether it is one of several tables. -/
  isOneOfSeveral : Bool

namespace Draft

def start : Draft := ⟨[], [], none, false⟩

def settle (d : Draft) : Option Members :=
  match d.place with
  | none => some d.current
  | some (path, key) =>
    editAt false
      (fun _ members =>
        if d.isOneOfSeveral then
          match members.lookup key with
          | some (.tables items) =>
            some (replaceMember members key (.tables (items ++ [d.current])))
          | _ => none
        else if members.any (·.1 == key) then none
        else some (members ++ [(key, .table .header d.current)]))
      path .header d.settled

def addPair (d : Draft) (path : List String) (key : String) (node : Node) : Option Draft := do
  return { d with current := ← Toml.addPair d.current path key node }

/-- The members a table already has when its header is met, and the table it is taken out of. -/
def takeOuter (key : String) (members : Members) : Option (Members × Members) :=
  match members.lookup key with
  | none => some ([], members)
  | some (.table .outerHeader inner) => some (inner, members.filter (·.1 != key))
  | some _ => none

def membersAt : List String → Members → Option Members
  | [], members => some members
  | key :: path, members =>
    match members.lookup key with
    | none => some []
    | some (.table _ inner) => membersAt path inner
    | some (.tables items) => items.getLast?.bind (membersAt path)
    | some _ => none

/-- Begins the table of a header in brackets. Tables inside it may have come first. -/
def beginTable (d : Draft) (path : List String) (key : String) : Option Draft := do
  let settled ← d.settle
  let around ← membersAt path settled
  let (inner, _) ← takeOuter key around
  let settled ←
    editAt false (fun _ members => (takeOuter key members).map (·.2)) path .header settled
  return ⟨settled, inner, some (path, key), false⟩

/-- Begins one of several tables that share a header in double brackets. -/
def beginOneOfSeveral (d : Draft) (path : List String) (key : String) : Option Draft := do
  let settled ← d.settle
  let settled ← editAt false
    (fun _ members =>
      match members.lookup key with
      | none => some (members ++ [(key, .tables [])])
      | some (.tables _) => some members
      | some _ => none)
    path .header settled
  return ⟨settled, [], some (path, key), true⟩

end Draft

end ClassSwap.Toml
