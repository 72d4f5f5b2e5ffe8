import ClassSwap.Blank
import ClassSwap.Utf8

namespace ClassSwap.Base64

/-- Why a text is not base64. Offsets count bytes from the start of the text. -/
inductive Fault where
  | symbol (byte : Nat) (offset : Nat)
  | length (count : Nat)
  | padding
  | lastSymbol (byte : Nat) (offset : Nat)
  deriving DecidableEq, Repr

def Fault.message : Fault → String
  | .symbol byte offset => s!"Invalid symbol {byte}, offset {offset}."
  | .length count => s!"Invalid input length: {count}"
  | .padding => "Invalid padding"
  | .lastSymbol byte offset => s!"Invalid last symbol {byte}, offset {offset}."

/-- The symbol for a number below 64. -/
def symbolOf (n : Nat) : UInt8 :=
  if n < 26 then UInt8.ofNat (65 + n)
  else if n < 52 then UInt8.ofNat (71 + n)
  else if n < 62 then UInt8.ofNat (n - 4)
  else if n = 62 then 43
  else 47

/-- The number below 64 that a symbol stands for. -/
def valueOf? (b : UInt8) : Option Nat :=
  if 65 ≤ b && b ≤ 90 then some (b.toNat - 65)
  else if 97 ≤ b && b ≤ 122 then some (b.toNat - 71)
  else if 48 ≤ b && b ≤ 57 then some (b.toNat + 4)
  else if b = 43 then some 62
  else if b = 47 then some 63
  else none

def pad : UInt8 := 61

/-- Three bytes make four symbols; one or two bytes at the end are padded to four. -/
def encodeSymbols : Bytes → Bytes
  | [] => []
  | [a] => [symbolOf (a.toNat / 4), symbolOf (a.toNat % 4 * 16), pad, pad]
  | [a, b] =>
    [symbolOf (a.toNat / 4), symbolOf (a.toNat % 4 * 16 + b.toNat / 16),
      symbolOf (b.toNat % 16 * 4), pad]
  | a :: b :: c :: rest =>
    symbolOf (a.toNat / 4) :: symbolOf (a.toNat % 4 * 16 + b.toNat / 16)
      :: symbolOf (b.toNat % 16 * 4 + c.toNat / 64) :: symbolOf (c.toNat % 64) :: encodeSymbols rest

/-- The letter for a number below 64. -/
def letterOf (n : Nat) : Char := Char.ofNat (symbolOf n).toNat

/-- `encodeSymbols` as text behind what is there already; a body can hold millions of bytes, so the
groups are pushed in turn. -/
def encodeOnto (text : String) : Bytes → String
  | [] => text
  | [a] =>
    (((text.push (letterOf (a.toNat / 4))).push (letterOf (a.toNat % 4 * 16))).push '=').push '='
  | [a, b] =>
    (((text.push (letterOf (a.toNat / 4))).push (letterOf (a.toNat % 4 * 16 + b.toNat / 16))).push
      (letterOf (b.toNat % 16 * 4))).push '='
  | a :: b :: c :: rest =>
    encodeOnto ((((text.push (letterOf (a.toNat / 4))).push
      (letterOf (a.toNat % 4 * 16 + b.toNat / 16))).push
      (letterOf (b.toNat % 16 * 4 + c.toNat / 64))).push (letterOf (c.toNat % 64))) rest

def encode (bytes : Bytes) : String :=
  encodeOnto "" bytes

theorem toList_encodeOnto (text : String) (bytes : Bytes) :
    (encodeOnto text bytes).toList =
      text.toList ++ (encodeSymbols bytes).map fun b => Char.ofNat b.toNat := by
  induction text, bytes using encodeOnto.induct with
  | case1 text => simp [encodeOnto, encodeSymbols]
  | case2 text a | case3 text a b =>
    simp only [encodeOnto, encodeSymbols, String.toList_push, List.append_assoc, List.map_cons]
    rfl
  | case4 text a b c rest ih =>
    simp only [encodeOnto, encodeSymbols, ih, String.toList_push, List.append_assoc, List.map_cons]
    rfl

theorem toList_encode (bytes : Bytes) :
    (encode bytes).toList = (encodeSymbols bytes).map fun b => Char.ofNat b.toNat := by
  rw [encode, toList_encodeOnto]
  rfl

/-- The value of the symbol at `offset`. -/
def valueAt (b : UInt8) (offset : Nat) : Except Fault Nat :=
  match valueOf? b with
  | some n => .ok n
  | none => .error (.symbol b.toNat offset)

/-- What the last one to four bytes hold: values of symbols in order, then a count of padding. -/
def lastGroup (start : Nat) (symbols : List Nat) (pads : Nat) :
    Bytes → Except Fault (List Nat × Nat)
  | [] => .ok (symbols, pads)
  | b :: rest =>
    if b = pad then
      if pads = 0 ∧ symbols.length < 2 then .error (.symbol pad.toNat (start + symbols.length))
      else lastGroup start symbols (pads + 1) rest
    else if 0 < pads then .error (.symbol pad.toNat (start + symbols.length))
    else
      match valueOf? b with
      | some n => lastGroup start (symbols ++ [n]) pads rest
      | none => .error (.symbol b.toNat (start + symbols.length))

/-- The bytes of a last group whose symbols are known; `last` is its last symbol as written. -/
def finish (start : Nat) (symbols : List Nat) (pads : Nat) (last : Nat) : Except Fault Bytes :=
  match symbols with
  | [a, b] =>
    if pads ≠ 2 then .error .padding
    else if b % 16 ≠ 0 then .error (.lastSymbol last (start + 1))
    else .ok [UInt8.ofNat (a * 4 + b / 16)]
  | [a, b, c] =>
    if pads ≠ 1 then .error .padding
    else if c % 4 ≠ 0 then .error (.lastSymbol last (start + 2))
    else .ok [UInt8.ofNat (a * 4 + b / 16), UInt8.ofNat (b % 16 * 16 + c / 4)]
  | [a, b, c, d] =>
    .ok [UInt8.ofNat (a * 4 + b / 16), UInt8.ofNat (b % 16 * 16 + c / 4),
      UInt8.ofNat (c % 4 * 64 + d)]
  | _ => .error (.length (start + symbols.length))

def decodeGroups (start : Nat) : Bytes → Except Fault Bytes
  | a :: b :: c :: d :: e :: rest => do
    let a ← valueAt a start
    let b ← valueAt b (start + 1)
    let c ← valueAt c (start + 2)
    let d ← valueAt d (start + 3)
    let tail ← decodeGroups (start + 4) (e :: rest)
    return UInt8.ofNat (a * 4 + b / 16) :: UInt8.ofNat (b % 16 * 16 + c / 4)
      :: UInt8.ofNat (c % 4 * 64 + d) :: tail
  | [] => .ok []
  | group => do
    let (symbols, pads) ← lastGroup start [] 0 group
    let last := (group.drop (symbols.length - 1)).headD 0
    finish start symbols pads last.toNat

/-- A lone last byte outside the alphabet is reported before anything else. -/
def decodeSymbols (bytes : Bytes) : Except Fault Bytes :=
  match bytes.getLast? with
  | none => .ok []
  | some last =>
    if bytes.length % 4 = 1 ∧ last ≠ pad ∧ valueOf? last = none then
      .error (.symbol last.toNat (bytes.length - 1))
    else decodeGroups 0 bytes

def decode (text : String) : Except Fault Bytes :=
  decodeSymbols (Utf8.encode (trimBlank text.toList))

end ClassSwap.Base64
