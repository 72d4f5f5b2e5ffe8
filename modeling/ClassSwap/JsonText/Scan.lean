import ClassSwap.JsonText.Tree
import ClassSwap.Utf8

namespace ClassSwap.JsonText

abbrev Glyph := Option Char

def isSpace : Glyph → Bool
  | some c => c == ' ' || c == '\t' || c == '\n' || c == '\r'
  | none => false

def skipSpace (text : List Glyph) : List Glyph := text.dropWhile isSpace

def digit? : Glyph → Option Nat
  | some c => if '0' ≤ c && c ≤ '9' then some (c.toNat - 48) else none
  | none => none

def spanDigits : List Glyph → List Nat × List Glyph
  | [] => ([], [])
  | g :: rest =>
    match digit? g with
    | some d => (d :: (spanDigits rest).1, (spanDigits rest).2)
    | none => ([], g :: rest)

structure Numeral where
  minus : Bool
  whole : List Nat
  fraction : Option (List Nat)
  exponent : Option (Bool × List Nat)

/-- A fault for a reader and for one that skips the value. -/
abbrev Faults := Fault × Fault

/-- A missing digit: at the end of the text a reader has come too far, a skipper has not looked. -/
def missingDigit : List Glyph → Faults
  | [] => (.truncated, .malformed)
  | _ :: _ => (.malformed, .malformed)

def scanExponent (text : List Glyph) : Except Faults ((Bool × List Nat) × List Glyph) :=
  let (minus, text) :=
    match text with
    | some '+' :: rest => (false, rest)
    | some '-' :: rest => (true, rest)
    | _ => (false, text)
  match spanDigits text with
  | ([], rest) => .error (missingDigit rest)
  | (digits, rest) => .ok ((minus, digits), rest)

def scanTail (minus : Bool) (whole : List Nat) (fraction : Option (List Nat)) :
    List Glyph → Except Faults (Numeral × List Glyph)
  | some 'e' :: rest | some 'E' :: rest =>
    match scanExponent rest with
    | .ok (exponent, rest) => .ok (⟨minus, whole, fraction, some exponent⟩, rest)
    | .error f => .error f
  | rest => .ok (⟨minus, whole, fraction, none⟩, rest)

/-- A number after its sign. Zero is the only number that starts with the digit zero. -/
def scanNumeral (minus : Bool) (text : List Glyph) : Except Faults (Numeral × List Glyph) :=
  match spanDigits text with
  | ([], rest) => .error (missingDigit rest)
  | (whole, rest) =>
    if whole.head? == some 0 && whole.length != 1 then .error (.malformed, .malformed)
    else
      match rest with
      | some '.' :: rest =>
        match spanDigits rest with
        | ([], rest) => .error (missingDigit rest)
        | (fraction, rest) => scanTail minus whole (some fraction) rest
      | rest => scanTail minus whole none rest

def maxNatural : Nat := 18446744073709551615

/-- Adds digits to a significand as long as it stays exact; tells how many digits are left out. -/
def gather (significand : Nat) : List Nat → Nat × Nat
  | [] => (significand, 0)
  | d :: rest =>
    if maxNatural < 10 * significand + d then (significand, (d :: rest).length)
    else gather (10 * significand + d) rest

/-- Scales by powers of ten up to the largest one, which a number may need several times. -/
def scaleReal (x : Float) : (tries : Nat) → (exponent : Int) → Except Fault Float
  | 0, _ => .ok x
  | tries + 1, exponent =>
    if exponent.natAbs ≤ 308 then
      let power := Float.ofScientific 1 false exponent.natAbs
      if 0 ≤ exponent then
        let y := x * power
        if y.isInf then .error .malformed else .ok y
      else .ok (x / power)
    else if x == 0.0 then .ok x
    else if 0 ≤ exponent then .error .malformed
    else scaleReal (x / Float.ofScientific 1 false 308) tries (exponent + 308)

def maxExponent : Nat := 2147483647

/-- The value of a number. Numbers without point and exponent are exact if they fit 64 bits; all
others are doubles, and one that no double can hold is refused. -/
def Numeral.value (n : Numeral) : Except Fault Number :=
  let (significand, left) := gather 0 n.whole
  if n.fraction.isNone && n.exponent.isNone && left == 0
      && (!n.minus || (0 < significand && significand ≤ 9223372036854775808)) then
    .ok (if n.minus then .negative significand else .natural significand)
  else
    let (significand, shift) :=
      match n.fraction with
      | some digits =>
        let (s, out) := gather significand digits
        (s, (left : Int) - ((digits.length : Int) - out))
      | none => (significand, (left : Int))
    let real (shift : Int) : Except Fault Number :=
      match scaleReal significand.toUInt64.toFloat 6 shift with
      | .ok x => .ok (.real (if n.minus then -x else x))
      | .error f => .error f
    match n.exponent with
    | none => real shift
    | some (minus, digits) =>
      let e : Nat := digits.foldl (fun m d => 10 * m + d) 0
      if maxExponent < e then
        if significand != 0 && !minus then .error .malformed
        else .ok (.real (if n.minus then -0.0 else 0.0))
      else real (if minus then shift - e else shift + e)

def hexQuad? : List Glyph → Option (Nat × List Glyph)
  | some a :: some b :: some c :: some d :: rest => do
    let a ← Bytes.hexValue? a
    let b ← Bytes.hexValue? b
    let c ← Bytes.hexValue? c
    let d ← Bytes.hexValue? d
    return (((a * 16 + b) * 16 + c) * 16 + d, rest)
  | _ => none

def glyphSize : Glyph → Nat
  | some c => c.utf8Size
  | none => 1

/-- A faulty escape of four digits: the text ends if fewer than four bytes are left. -/
def hexFault (text : List Glyph) : Fault :=
  if text.foldl (fun n g => n + glyphSize g) 0 < 4 then .truncated else .malformed

/-- The character of a backslash escape other than `u`. -/
def escape? : Glyph → Option Char
  | some '"' => some '"'
  | some '\\' => some '\\'
  | some '/' => some '/'
  | some 'b' => some '\x08'
  | some 'f' => some '\x0c'
  | some 'n' => some '\n'
  | some 'r' => some '\r'
  | some 't' => some '\t'
  | _ => none

/-- What a reader has made of a string so far: its characters in reverse, a high surrogate that
waits for the low one, and whether a byte outside UTF-8 has been met. -/
structure Draft where
  chars : Except Fault (List Char)
  high : Option Nat
  stray : Bool

def Draft.start : Draft := ⟨.ok [], none, false⟩

/-- A plain character; a waiting surrogate is left alone by it. -/
def Draft.push (d : Draft) (c : Char) : Draft :=
  match d.chars, d.high with
  | .ok cs, none => { d with chars := .ok (c :: cs) }
  | .ok _, some _ => { d with chars := .error .malformed }
  | .error _, _ => d

def Draft.pushUnit (d : Draft) (n : Nat) : Draft :=
  match d.chars, d.high with
  | .error _, _ => d
  | .ok cs, some high =>
    if 0xDC00 ≤ n && n ≤ 0xDFFF then
      { d with
        chars := .ok (Char.ofNat (0x10000 + (high - 0xD800) * 1024 + (n - 0xDC00)) :: cs)
        high := none }
    else { d with chars := .error .malformed }
  | .ok cs, none =>
    if 0xDC00 ≤ n && n ≤ 0xDFFF then { d with chars := .error .malformed }
    else if 0xD800 ≤ n && n ≤ 0xDBFF then { d with high := some n }
    else { d with chars := .ok (Char.ofNat n :: cs) }

def Draft.finish (d : Draft) : Except Fault String :=
  match d.chars with
  | .error f => .error f
  | .ok cs => if d.high.isSome || d.stray then .error .malformed else .ok (String.ofList cs.reverse)

/-- The faults of a string that cannot be scanned to its end. -/
def Draft.faults (d : Draft) (f : Fault) : Faults :=
  match d.chars with
  | .error e => (e, f)
  | .ok _ => (f, f)

/-- A waiting surrogate needs an escape `u` next; another escape is a fault for a reader. -/
def Draft.expectUnit (d : Draft) : Draft :=
  match d.chars, d.high with
  | .ok _, some _ => { d with chars := .error .malformed }
  | _, _ => d

def scanString (fuel : Nat) (d : Draft) (text : List Glyph) :
    Except Faults (Except Fault String × List Glyph) :=
  match fuel with
  | 0 => .error (d.faults .truncated)
  | fuel + 1 =>
    match text with
    | [] => .error (d.faults .truncated)
    | some '"' :: rest => .ok (d.finish, rest)
    | some '\\' :: rest =>
      match rest with
      | [] => .error (d.faults .truncated)
      | some 'u' :: rest =>
        match hexQuad? rest with
        | some (n, rest) => scanString fuel (d.pushUnit n) rest
        | none => .error (d.faults (hexFault rest))
      | g :: rest =>
        match escape? g with
        | some c => scanString fuel (d.expectUnit.push c) rest
        | none => .error (d.faults .malformed)
    | some c :: rest =>
      if c.toNat < 32 then .error (d.faults .malformed) else scanString fuel (d.push c) rest
    | none :: rest =>
      let d := match d.chars, d.high with
        | .ok _, some _ => { d with chars := .error .malformed }
        | _, _ => { d with stray := true }
      scanString fuel d rest

/-- The rest of a word whose first letter has been read. -/
def scanWord (word : List Char) (text : List Glyph) : Except Fault (List Glyph) :=
  match word, text with
  | [], rest => .ok rest
  | _ :: _, [] => .error .truncated
  | w :: ws, g :: rest => if g == some w then scanWord ws rest else .error .malformed

def wordTree (value : Tree) (word : List Char) (text : List Glyph) : Tree × List Glyph :=
  match scanWord word text with
  | .ok rest => (value, rest)
  | .error f => (.broken f .malformed f, [])

def numberTree (scanned : Except Faults (Numeral × List Glyph)) : Tree × List Glyph :=
  match scanned with
  | .ok (n, rest) => (.number n.value, rest)
  | .error (used, skipped) => (.broken used .malformed skipped, [])

mutual

/-- One value. The fuel bounds the nesting and the count of items together. -/
def scanValue (fuel : Nat) (text : List Glyph) : Tree × List Glyph :=
  match fuel with
  | 0 => (.broken .truncated .truncated .truncated, [])
  | fuel + 1 =>
    match skipSpace text with
    | [] => (.broken .truncated .truncated .truncated, [])
    | some 'n' :: rest => wordTree .null ['u', 'l', 'l'] rest
    | some 't' :: rest => wordTree (.bool true) ['r', 'u', 'e'] rest
    | some 'f' :: rest => wordTree (.bool false) ['a', 'l', 's', 'e'] rest
    | some '"' :: rest =>
      match scanString (rest.length + 1) .start rest with
      | .ok (value, rest) => (.string value, rest)
      | .error (used, skipped) => (.broken used used skipped, [])
    | some '-' :: rest => numberTree (scanNumeral true rest)
    | some '[' :: rest =>
      match skipSpace rest with
      | some ']' :: rest => (.array [] .closed, rest)
      | [] => (.array [] (.stray .truncated), [])
      | rest =>
        let (items, closing, rest) := scanItems fuel rest
        (.array items closing, rest)
    | some '\x7b' :: rest =>
      match skipSpace rest with
      | some '\x7d' :: rest => (.object [] .closed, rest)
      | [] => (.object [] (.stray .truncated), [])
      | some '"' :: rest =>
        let (members, closing, rest) := scanMembers fuel rest
        (.object members closing, rest)
      | rest => (.object [] (.nameless (scanValue fuel rest).1), [])
    | g :: rest =>
      if (digit? g).isSome then numberTree (scanNumeral false (g :: rest))
      else (.broken .malformed .malformed .malformed, [])

def scanItems (fuel : Nat) (text : List Glyph) : List Tree × Closing × List Glyph :=
  match fuel with
  | 0 => ([], .stray .truncated, [])
  | fuel + 1 =>
    let (item, rest) := scanValue fuel text
    match skipSpace rest with
    | [] => ([item], .stray .truncated, [])
    | some ']' :: rest => ([item], .closed, rest)
    | some ',' :: rest =>
      match skipSpace rest with
      | [] => ([item], .dangling .truncated, [])
      | some ']' :: _ => ([item], .dangling .malformed, [])
      | rest =>
        let (items, closing, rest) := scanItems fuel rest
        (item :: items, closing, rest)
    | _ => ([item], .stray .malformed, [])

/-- The members of an object after the opening quote of a name. -/
def scanMembers (fuel : Nat) (text : List Glyph) :
    List (Except Fault String × Tree) × Closing × List Glyph :=
  match fuel with
  | 0 => ([], .stray .truncated, [])
  | fuel + 1 =>
    match scanString (text.length + 1) .start text with
    | .error (used, skipped) => ([(.error used, .broken used used skipped)], .stray skipped, [])
    | .ok (name, rest) =>
      match skipSpace rest with
      | [] => ([(name, .broken .truncated .truncated .truncated)], .stray .truncated, [])
      | some ':' :: rest =>
        let (value, rest) := scanValue fuel rest
        match skipSpace rest with
        | [] => ([(name, value)], .stray .truncated, [])
        | some '\x7d' :: rest => ([(name, value)], .closed, rest)
        | some ',' :: rest =>
          match skipSpace rest with
          | [] => ([(name, value)], .dangling .truncated, [])
          | some '"' :: rest =>
            let (members, closing, rest) := scanMembers fuel rest
            ((name, value) :: members, closing, rest)
          | _ => ([(name, value)], .dangling .malformed, [])
        | _ => ([(name, value)], .stray .malformed, [])
      | _ => ([(name, .broken .malformed .malformed .malformed)], .stray .malformed, [])

end

/-- Scans characters to the end. Every second step at least takes a character. -/
def scanGlyphs (text : List Glyph) : Document :=
  let (root, rest) := scanValue (2 * text.length + 2) text
  ⟨root, if (skipSpace rest).isEmpty then .ok () else .error .malformed⟩

def scan (bytes : Bytes) : Document := scanGlyphs (Utf8.glyphs bytes)

end ClassSwap.JsonText
