import ClassSwap.Bytes
import ClassSwap.Path
import ClassSwap.Target

namespace ClassSwap

inductive Address where
  | v4 (a b c d : UInt8)
  /-- Eight groups of 16 bits. -/
  | v6 (groups : List Nat)
  deriving DecidableEq, Repr

namespace Address

def dottedText (a b c d : UInt8) : String :=
  ".".intercalate ([a, b, c, d].map fun n => toString n.toNat)

def groupText (n : Nat) : String := String.ofList (Nat.toDigits 16 n)

def groupsText (groups : List Nat) : String := ":".intercalate (groups.map groupText)

def zerosAhead (groups : List Nat) : Nat := (groups.takeWhile (· == 0)).length

/-- The place and the length of the longest run of zero groups, the first of several. -/
def longestRun (groups : List Nat) : Nat × Nat :=
  (List.range groups.length).foldl
    (fun best i =>
      let n := zerosAhead (groups.drop i)
      if best.2 < n then (i, n) else best) (0, 0)

def text : Address → String
  | v4 a b c d => dottedText a b c d
  | v6 groups =>
    match groups with
    | [0, 0, 0, 0, 0, 0xFFFF, high, low] =>
      "::ffff:" ++ dottedText (UInt8.ofNat (high / 256)) (UInt8.ofNat high)
        (UInt8.ofNat (low / 256)) (UInt8.ofNat low)
    | groups =>
      let (start, count) := longestRun groups
      if 1 < count then
        groupsText (groups.take start) ++ "::" ++ groupsText (groups.drop (start + count))
      else groupsText groups

/-- A number in decimal digits, without zeros in front. -/
def decimal? (max : Nat) (text : List Char) : Option Nat :=
  if text.isEmpty || !text.all Char.isDigit || (1 < text.length && text.head? == some '0') then none
  else
    let n := text.foldl (fun n c => 10 * n + (c.toNat - 48)) 0
    if n ≤ max then some n else none

def ofDotted? (text : List Char) : Option (List Nat) := do
  let parts ← (splitOnChar '.' text).mapM (decimal? 255)
  if parts.length = 4 then some parts else none

def group? (text : List Char) : Option Nat :=
  if text.isEmpty || 4 < text.length then none
  else do
    let digits ← text.mapM Bytes.hexValue?
    return digits.foldl (fun n d => 16 * n + d) 0

/-- Groups between colons; the last may be an address in dotted form, which makes two. -/
def groups? (text : List Char) : Option (List Nat) :=
  if text.isEmpty then some []
  else
    let pieces := splitOnChar ':' text
    let last := pieces.getLast?.getD []
    if last.contains '.' then do
      let ahead ← pieces.dropLast.mapM group?
      match ← ofDotted? last with
      | [a, b, c, d] => some (ahead ++ [256 * a + b, 256 * c + d])
      | _ => none
    else pieces.mapM group?

/-- The text before the first double colon, and the text behind it. -/
def splitDouble : List Char → List Char → Option (List Char × List Char)
  | before, ':' :: ':' :: rest => some (before.reverse, rest)
  | before, c :: rest => splitDouble (c :: before) rest
  | _, [] => none

def ofGroups? (text : List Char) : Option (List Nat) :=
  match splitDouble [] text with
  | some (before, after) => do
    let before ← groups? before
    let after ← groups? after
    let given := before.length + after.length
    if given < 8 then some (before ++ List.replicate (8 - given) 0 ++ after) else none
  | none => do
    let groups ← groups? text
    if groups.length = 8 then some groups else none

def ofText? (text : List Char) : Option Address :=
  match ofDotted? text with
  | some [a, b, c, d] =>
    some (v4 (UInt8.ofNat a) (UInt8.ofNat b) (UInt8.ofNat c) (UInt8.ofNat d))
  | _ => (ofGroups? text).map v6

/-- The endpoint that `ip:port` or `[ip]:port` names. -/
def endpoint? (text : String) : Option Endpoint := do
  let (host, port) ← splitAtLast ':' text.toList
  let port ← decimal? 65535 port
  let inner :=
    if host.head? == some '[' && host.getLast? == some ']' then (host.drop 1).dropLast else host
  let address ← ofText? inner
  return ⟨address.text, UInt16.ofNat port⟩

end Address

end ClassSwap
