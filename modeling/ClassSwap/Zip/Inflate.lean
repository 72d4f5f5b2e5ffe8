import ClassSwap.Bytes

namespace ClassSwap.Zip

/-- Bits to be read, the lowest bit of each byte first. -/
structure Bits where
  /-- What is left of the byte being read, and how many of its bits. -/
  held : Nat
  count : Nat
  bytes : Bytes

namespace Bits

def ofBytes (bytes : Bytes) : Bits := ⟨0, 0, bytes⟩

def next? (s : Bits) : Option (Nat × Bits) :=
  if 0 < s.count then some (s.held % 2, ⟨s.held / 2, s.count - 1, s.bytes⟩)
  else
    match s.bytes with
    | [] => none
    | b :: rest => some (b.toNat % 2, ⟨b.toNat / 2, 7, rest⟩)

def take? (s : Bits) : (width : Nat) → Option (Nat × Bits)
  | 0 => some (0, s)
  | width + 1 => do
    let (bit, s) ← s.next?
    let (high, s) ← s.take? width
    return (bit + 2 * high, s)

def align (s : Bits) : Bits := ⟨0, 0, s.bytes⟩

def size (s : Bits) : Nat := s.count + 8 * s.bytes.length

end Bits

/-- A prefix code: how many codes there are of each length from one on, and the symbols in the order
of their codes. -/
structure Code where
  counts : List Nat
  symbols : Array Nat

namespace Code

def maxLength : Nat := 15

def symbolsOfLength (lengths : List Nat) (n : Nat) : List Nat :=
  (lengths.zipIdx.filter (·.1 == n)).map (·.2)

/-- How much of the space of codes is used, in units of the longest code. -/
def spaceUsed (lengths : List Nat) : Nat :=
  (lengths.filter (0 < ·)).foldl (fun used n => used + (1 <<< (maxLength - n))) 0

/-- The code in which each symbol has a given length, zero for none. More than one symbol must use
up the space of codes exactly. -/
def ofLengths? (lengths : List Nat) : Option Code :=
  if spaceUsed lengths ≠ 1 <<< maxLength ∧ 1 < (lengths.filter (0 < ·)).length then none
  else
    let groups := (List.range maxLength).map fun i => symbolsOfLength lengths (i + 1)
    some ⟨groups.map List.length, groups.flatten.toArray⟩

/-- Reads one symbol. `value` and `first` are the code read so far and the first one of its length,
`index` the place of that one's symbol. -/
def readWith (symbols : Array Nat) (value first index : Nat) :
    List Nat → Bits → Option (Nat × Bits)
  | [], _ => none
  | count :: counts, s => do
    let (bit, s) ← s.next?
    let value := value + bit
    if value < first + count then
      let symbol ← symbols[index + (value - first)]?
      return (symbol, s)
    else readWith symbols (2 * value) (2 * (first + count)) (index + count) counts s

def read? (c : Code) (s : Bits) : Option (Nat × Bits) := readWith c.symbols 0 0 0 c.counts s

end Code

def lengthTable : List (Nat × Nat) :=
  [(3, 0), (4, 0), (5, 0), (6, 0), (7, 0), (8, 0), (9, 0), (10, 0), (11, 1), (13, 1), (15, 1),
    (17, 1), (19, 2), (23, 2), (27, 2), (31, 2), (35, 3), (43, 3), (51, 3), (59, 3), (67, 4),
    (83, 4), (99, 4), (115, 4), (131, 5), (163, 5), (195, 5), (227, 5), (258, 0)]

def distanceTable : List (Nat × Nat) :=
  [(1, 0), (2, 0), (3, 0), (4, 0), (5, 1), (7, 1), (9, 2), (13, 2), (17, 3), (25, 3), (33, 4),
    (49, 4), (65, 5), (97, 5), (129, 6), (193, 6), (257, 7), (385, 7), (513, 8), (769, 8),
    (1025, 9), (1537, 9), (2049, 10), (3073, 10), (4097, 11), (6145, 11), (8193, 12), (12289, 12),
    (16385, 13), (24577, 13)]

/-- A number given by a table row and the extra bits that follow. -/
def readRow? (table : List (Nat × Nat)) (row : Nat) (s : Bits) : Option (Nat × Bits) := do
  let (base, extra) ← table[row]?
  let (more, s) ← s.take? extra
  return (base + more, s)

/-- Repeats earlier output; the repetition may run into itself. -/
def repeatOutput (out : Array UInt8) (distance : Nat) : (length : Nat) → Option (Array UInt8)
  | 0 => some out
  | length + 1 =>
    if out.size < distance then none
    else do
      let b ← out[out.size - distance]?
      repeatOutput (out.push b) distance length

/-- The output of a block of codes; every symbol takes at least one bit. -/
def readSymbols (literals distances : Code) (out : Array UInt8) :
    (tries : Nat) → Bits → Option (Array UInt8 × Bits)
  | 0, _ => none
  | tries + 1, s => do
    let (symbol, s) ← literals.read? s
    if symbol < 256 then readSymbols literals distances (out.push (UInt8.ofNat symbol)) tries s
    else if symbol = 256 then return (out, s)
    else
      let (length, s) ← readRow? lengthTable (symbol - 257) s
      let (row, s) ← distances.read? s
      let (distance, s) ← readRow? distanceTable row s
      let out ← repeatOutput out distance length
      readSymbols literals distances out tries s

/-- The code of blocks that bring no code along: for bytes and lengths, and for distances. -/
def fixedLiterals : List Nat :=
  List.replicate 144 8 ++ List.replicate 112 9 ++ List.replicate 24 7 ++ List.replicate 8 8

def fixedDistances : List Nat := List.replicate 32 5

/-- The order in which the lengths of the code for lengths are given. -/
def lengthOrder : List Nat := [16, 17, 18, 0, 8, 7, 9, 6, 10, 5, 11, 4, 12, 3, 13, 2, 14, 1, 15]

def readTriples? : (count : Nat) → Bits → Option (List Nat × Bits)
  | 0, s => some ([], s)
  | count + 1, s => do
    let (n, s) ← s.take? 3
    let (rest, s) ← readTriples? count s
    return (n :: rest, s)

/-- Lengths of codes, themselves coded, until there are `total`; more are refused. -/
def readLengths (code : Code) (total : Nat) (found : List Nat) :
    (tries : Nat) → Bits → Option (List Nat × Bits)
  | 0, _ => none
  | tries + 1, s =>
    if found.length = total then some (found, s)
    else if total < found.length then none
    else do
      let (symbol, s) ← code.read? s
      if symbol < 16 then readLengths code total (found ++ [symbol]) tries s
      else if symbol = 16 then
        let last ← found.getLast?
        let (n, s) ← s.take? 2
        readLengths code total (found ++ List.replicate (n + 3) last) tries s
      else if symbol = 17 then
        let (n, s) ← s.take? 3
        readLengths code total (found ++ List.replicate (n + 3) 0) tries s
      else
        let (n, s) ← s.take? 7
        readLengths code total (found ++ List.replicate (n + 11) 0) tries s

def readCodes? (s : Bits) : Option (Code × Code × Bits) := do
  let (n, s) ← s.take? 5
  let literals := n + 257
  let (n, s) ← s.take? 5
  let distances := n + 1
  let (n, s) ← s.take? 4
  let (given, s) ← readTriples? (n + 4) s
  let lengthOf (i : Nat) : Nat := ((lengthOrder.zip given).lookup i).getD 0
  let code ← Code.ofLengths? ((List.range 19).map lengthOf)
  let total := literals + distances
  let (lengths, s) ← readLengths code total [] (total + 1) s
  let literalCode ← Code.ofLengths? (lengths.take literals)
  let distanceCode ← Code.ofLengths? (lengths.drop literals)
  return (literalCode, distanceCode, s)

def readStored (out : Array UInt8) (s : Bits) : Option (Array UInt8 × Bits) := do
  let s := s.align
  let (size, s) ← s.take? 16
  let (check, s) ← s.take? 16
  if size + check ≠ 65535 then none
  else if s.bytes.length < size then none
  else return ((s.bytes.take size).foldl Array.push out, Bits.ofBytes (s.bytes.drop size))

def readBlock (out : Array UInt8) (kind : Nat) (s : Bits) : Option (Array UInt8 × Bits) :=
  match kind with
  | 0 => readStored out s
  | 1 => do
    let literals ← Code.ofLengths? fixedLiterals
    let distances ← Code.ofLengths? fixedDistances
    readSymbols literals distances out (s.size + 1) s
  | 2 => do
    let (literals, distances, s) ← readCodes? s
    readSymbols literals distances out (s.size + 1) s
  | _ => none

/-- The output of blocks up to the last one; every block takes at least three bits. -/
def readBlocks (out : Array UInt8) : (tries : Nat) → Bits → Option (Array UInt8)
  | 0, _ => none
  | tries + 1, s => do
    let (last, s) ← s.take? 1
    let (kind, s) ← s.take? 2
    let (out, s) ← readBlock out kind s
    if last = 1 then return out else readBlocks out tries s

/-- The bytes that DEFLATE data stands for. What follows the last block is not looked at. -/
def inflate? (data : Bytes) : Option Bytes :=
  let s := Bits.ofBytes data
  (readBlocks #[] (s.size + 1) s).map Array.toList

/-- Largest number of bytes in a block that holds them as they are. -/
def maxStored : Nat := 65535

def storedBlock (last : Bool) (bytes : Bytes) : Bytes :=
  (if last then 1 else 0) :: Bytes.ofNatLE 2 bytes.length
    ++ Bytes.ofNatLE 2 (maxStored - bytes.length) ++ bytes

/-- DEFLATE data for bytes, in blocks that hold them as they are. -/
def deflate (bytes : Bytes) : Bytes :=
  if bytes.length ≤ maxStored then storedBlock true bytes
  else storedBlock false (bytes.take maxStored) ++ deflate (bytes.drop maxStored)
termination_by bytes.length
decreasing_by simp only [List.length_drop, maxStored] at *; omega

end ClassSwap.Zip
