import ClassSwap.Bytes

namespace ClassSwap.Utf8

def encode (text : List Char) : Bytes := text.flatMap String.utf8EncodeChar

def ofString (text : String) : Bytes := encode text.toList

def isTail (b : UInt8) : Bool := 0x80 ≤ b && b ≤ 0xBF

def payload (b : UInt8) : Nat := b.toNat % 64

/-- The character that starts with `lead`, and how many bytes after `lead` belong to it. Overlong
forms, surrogates and values past the last code point are refused. -/
def leadChar? (lead : UInt8) (rest : Bytes) : Option (Char × Nat) :=
  if lead < 0x80 then some (Char.ofNat lead.toNat, 0)
  else if 0xC2 ≤ lead && lead ≤ 0xDF then
    match rest with
    | b :: _ => if isTail b then some (Char.ofNat ((lead.toNat % 32) * 64 + payload b), 1) else none
    | _ => none
  else if 0xE0 ≤ lead && lead ≤ 0xEF then
    match rest with
    | b :: c :: _ =>
      let n := (lead.toNat % 16) * 4096 + payload b * 64 + payload c
      if isTail b && isTail c && 0x800 ≤ n && !(0xD800 ≤ n && n ≤ 0xDFFF) then
        some (Char.ofNat n, 2)
      else none
    | _ => none
  else if 0xF0 ≤ lead && lead ≤ 0xF4 then
    match rest with
    | b :: c :: d :: _ =>
      let n := (lead.toNat % 8) * 262144 + payload b * 4096 + payload c * 64 + payload d
      if isTail b && isTail c && isTail d && 0x10000 ≤ n && n ≤ 0x10FFFF then
        some (Char.ofNat n, 3)
      else none
    | _ => none
  else none

/-- The characters of a byte string in order; `none` stands for a byte outside every sequence. -/
def glyphs : Bytes → List (Option Char)
  | [] => []
  | lead :: rest =>
    match leadChar? lead rest with
    | some (c, k) => some c :: glyphs (rest.drop k)
    | none => none :: glyphs rest
termination_by bytes => bytes.length
decreasing_by all_goals simp only [List.length_cons, List.length_drop]; omega

def decode? (bytes : Bytes) : Option (List Char) := (glyphs bytes).mapM id

def toString? (bytes : Bytes) : Option String := (decode? bytes).map String.ofList

/-- How many bytes from `lead` on are the front of a sequence that breaks off, at least one. -/
def brokenLength (lead : UInt8) (rest : Bytes) : Nat :=
  let second (b : UInt8) : Bool :=
    if lead = 0xE0 then 0xA0 ≤ b && b ≤ 0xBF
    else if lead = 0xED then 0x80 ≤ b && b ≤ 0x9F
    else if lead = 0xF0 then 0x90 ≤ b && b ≤ 0xBF
    else if lead = 0xF4 then 0x80 ≤ b && b ≤ 0x8F
    else isTail b
  match rest with
  | b :: c :: _ =>
    if 0xE0 ≤ lead && lead ≤ 0xF4 && second b then
      if 0xF0 ≤ lead && isTail c then 3 else 2
    else 1
  | [b] => if 0xE0 ≤ lead && lead ≤ 0xF4 && second b then 2 else 1
  | [] => 1

/-- The text of a byte string, with one replacement character for each broken sequence. -/
def lossy : Bytes → List Char
  | [] => []
  | lead :: rest =>
    match leadChar? lead rest with
    | some (c, k) => c :: lossy (rest.drop k)
    | none => '\ufffd' :: lossy (rest.drop (brokenLength lead rest - 1))
termination_by bytes => bytes.length
decreasing_by all_goals simp only [List.length_cons, List.length_drop]; omega

def size (text : List Char) : Nat := text.foldl (fun n c => n + c.utf8Size) 0

end ClassSwap.Utf8
