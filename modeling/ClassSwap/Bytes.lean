namespace ClassSwap

/-- A byte string: the content of a class file, an archive or a frame. -/
abbrev Bytes := List UInt8

namespace Bytes

/-- The hexadecimal digit of a number below 16, in lower case. -/
def hexDigit (n : Nat) : Char :=
  if n < 10 then Char.ofNat (48 + n) else Char.ofNat (87 + n)

def hexValue? (c : Char) : Option Nat :=
  if '0' ≤ c ∧ c ≤ '9' then some (c.toNat - 48)
  else if 'a' ≤ c ∧ c ≤ 'f' then some (c.toNat - 87)
  else if 'A' ≤ c ∧ c ≤ 'F' then some (c.toNat - 55)
  else none

def toHex (bytes : Bytes) : String :=
  bytes.foldl
    (fun text b => (text.push (hexDigit (b.toNat / 16))).push (hexDigit (b.toNat % 16))) ""

/-- Reads pairs of digits; an odd or foreign digit is refused. -/
def ofHexDigits? : List Char → Option Bytes
  | [] => some []
  | [_] => none
  | hi :: lo :: rest => do
    let h ← hexValue? hi
    let l ← hexValue? lo
    let tail ← ofHexDigits? rest
    return UInt8.ofNat (16 * h + l) :: tail

def ofHex? (text : String) : Option Bytes := ofHexDigits? text.toList

/-- The low 32 bits of a number, most significant byte first. -/
def ofWord32 (n : Nat) : Bytes :=
  [UInt8.ofNat (n / 16777216), UInt8.ofNat (n / 65536), UInt8.ofNat (n / 256), UInt8.ofNat n]

/-- The number that bytes spell, most significant byte first. -/
def toNat (bytes : Bytes) : Nat := bytes.foldl (fun n b => 256 * n + b.toNat) 0

/-- The number that bytes spell, least significant byte first. -/
def toNatLE : Bytes → Nat
  | [] => 0
  | b :: rest => b.toNat + 256 * toNatLE rest

/-- The low `count` bytes of a number, least significant byte first. -/
def ofNatLE (count : Nat) (n : Nat) : Bytes :=
  match count with
  | 0 => []
  | k + 1 => UInt8.ofNat n :: ofNatLE k (n / 256)

end Bytes

end ClassSwap
