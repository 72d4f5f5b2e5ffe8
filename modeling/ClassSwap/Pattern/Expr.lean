import ClassSwap.Pattern.CharClass

namespace ClassSwap

namespace Pattern

inductive Look where
  | textStart
  | textEnd
  | lineStart (crlf : Bool)
  | lineEnd (crlf : Bool)
  | wordBoundary (negated : Bool) (letters : CharClass)
  | wordStart (half : Bool) (letters : CharClass)
  | wordEnd (half : Bool) (letters : CharClass)
  deriving DecidableEq, Repr

inductive Expr where
  | empty
  | one (cls : CharClass)
  | look (condition : Look)
  | sequence (a b : Expr)
  | choice (a b : Expr)
  /-- As many times as allowed; without `most` any number. -/
  | times (a : Expr) (least : Nat) (most : Option Nat)
  deriving DecidableEq, Repr

/-- The character before a place, if any. -/
def charBefore? (text : Array Char) (place : Nat) : Option Char :=
  if place = 0 then none else text[place - 1]?

def Look.holds (condition : Look) (text : Array Char) (place : Nat) : Bool :=
  let before := charBefore? text place
  let after := text[place]?
  let inside (letters : CharClass) (c : Option Char) : Bool := c.any letters.contains
  match condition with
  | textStart => place == 0
  | textEnd => place == text.size
  | lineStart false => before.isNone || before == some '\n'
  | lineStart true =>
    before.isNone || before == some '\n' || (before == some '\r' && after != some '\n')
  | lineEnd false => after.isNone || after == some '\n'
  | lineEnd true =>
    after.isNone || after == some '\r' || (after == some '\n' && before != some '\r')
  | wordBoundary negated letters => (inside letters before != inside letters after) != negated
  | wordStart half letters => !inside letters before && (half || inside letters after)
  | wordEnd half letters => (half || inside letters before) && !inside letters after

def mergePlaces (a b : List Nat) : List Nat :=
  (List.merge a b fun x y => decide (x ≤ y)).foldr
    (fun x rest => if rest.head? == some x then rest else x :: rest) []

/-- Applies a step to places a number of times, or until it changes nothing more. -/
def iterate (step : List Nat → List Nat) : (count : Nat) → List Nat → List Nat
  | 0, places => places
  | count + 1, places =>
    let next := step places
    if next == places then places else iterate step count next

/-- The places that up to `count` steps lead to, the first ones included. -/
def reach (step : List Nat → List Nat) : (count : Nat) → (reached fresh : List Nat) → List Nat
  | 0, reached, _ => reached
  | count + 1, reached, fresh =>
    let next := (step fresh).filter fun p => !reached.contains p
    if next.isEmpty then reached else reach step count (mergePlaces reached next) next

namespace Expr

/-- The places where a match can end that starts at one of `starts`, in rising order. Beyond one
repetition per character and one more nothing new is found. -/
def ends (text : Array Char) : Expr → List Nat → List Nat
  | empty, starts => starts
  | one cls, starts =>
    starts.filterMap fun i =>
      match text[i]? with
      | some c => if cls.contains c then some (i + 1) else none
      | none => none
  | look condition, starts => starts.filter (condition.holds text)
  | sequence a b, starts => ends text b (ends text a starts)
  | choice a b, starts => mergePlaces (ends text a starts) (ends text b starts)
  | times a least most, starts =>
    let enough := text.size + 1
    let base := iterate (fun s => ends text a s) (min least enough) starts
    let more := match most with
      | some m => min (m - least) enough
      | none => enough
    reach (fun s => ends text a s) more base base

def isMatch (e : Expr) (text : String) : Bool :=
  let chars := text.toList.toArray
  !(e.ends chars (List.range (chars.size + 1))).isEmpty

def isEmptyOnly : Expr → Bool
  | empty | look _ => true
  | one _ => false
  | sequence a b | choice a b => a.isEmptyOnly && b.isEmptyOnly
  | times a _ most => a.isEmptyOnly || most == some 0

/-- An estimate of the bytes that the compiled pattern takes. -/
def weight : Expr → Nat
  | empty | look _ => 32
  | one cls => cls.weight
  | sequence a b => a.weight + b.weight
  | choice a b => a.weight + b.weight + 40
  | times a least most =>
    let copies := max 1 (match most with | some m => m | none => least)
    copies * a.weight + 40

/-- A repetition. What matches nothing but the empty text need not be repeated. -/
def repeated (a : Expr) (least : Nat) (most : Option Nat) : Expr :=
  if a.isEmptyOnly then times a (min least 1) (most.map (min 1)) else times a least most

def sequenceAll (parts : List Expr) : Expr := parts.foldr sequence empty

def choiceAll : List Expr → Expr
  | [] => empty
  | [a] => a
  | a :: rest => choice a (choiceAll rest)

end Expr

end Pattern

end ClassSwap
