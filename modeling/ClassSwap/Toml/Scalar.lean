import ClassSwap.Bytes
import ClassSwap.Toml.Node

namespace ClassSwap.Toml

def isBlankChar (c : Char) : Bool := c == ' ' || c == '\t'

def skipBlanks (text : List Char) : List Char := text.dropWhile isBlankChar

def takeBreak? : List Char → Option (List Char)
  | '\n' :: rest => some rest
  | '\r' :: '\n' :: rest => some rest
  | _ => none

/-- Characters that may stand for themselves: tabs, and all but the control characters. -/
def isPlain (c : Char) : Bool := c == '\t' || (32 ≤ c.toNat && c.toNat != 127)

def takeHex : (count : Nat) → List Char → Option (Nat × List Char)
  | 0, text => some (0, text)
  | count + 1, c :: rest => do
    let d ← Bytes.hexValue? c
    let (low, rest) ← takeHex count rest
    return (d * 16 ^ count + low, rest)
  | _ + 1, [] => none

/-- A character by its number; surrogates are none. -/
def characterAt? (n : Nat) : Option Char :=
  if n < 0xD800 ∨ (0xDFFF < n ∧ n < 0x110000) then some (Char.ofNat n) else none

/-- What an escape stands for, without the backslash. -/
def takeEscape : List Char → Option (Char × List Char)
  | 'b' :: rest => some ('\x08', rest)
  | 'f' :: rest => some ('\x0c', rest)
  | 'n' :: rest => some ('\n', rest)
  | 'r' :: rest => some ('\r', rest)
  | 't' :: rest => some ('\t', rest)
  | '"' :: rest => some ('"', rest)
  | '\\' :: rest => some ('\\', rest)
  | 'u' :: rest => do
    let (n, rest) ← takeHex 4 rest
    return (← characterAt? n, rest)
  | 'U' :: rest => do
    let (n, rest) ← takeHex 8 rest
    return (← characterAt? n, rest)
  | _ => none

/-- The rest of a string in double quotes on one line. -/
def takeBasic : (tries : Nat) → List Char → Option (List Char × List Char)
  | 0, _ => none
  | _, [] => none
  | tries + 1, c :: rest =>
    if c == '"' then some ([], rest)
    else if c == '\\' then do
      let (value, rest) ← takeEscape rest
      let (more, rest) ← takeBasic tries rest
      return (value :: more, rest)
    else if isPlain c then do
      let (more, rest) ← takeBasic tries rest
      return (c :: more, rest)
    else none

/-- The rest of a string in single quotes on one line. -/
def takeLiteral : List Char → Option (List Char × List Char)
  | [] => none
  | c :: rest =>
    if c == '\'' then some ([], rest)
    else if isPlain c then do
      let (more, rest) ← takeLiteral rest
      return (c :: more, rest)
    else none

/-- A run of quotes in a string of several lines: three to five of them end it, and those beyond
three still belong to it. -/
def quoteRun (quote : Char) (text : List Char) : Nat × List Char :=
  ((text.takeWhile (· == quote)).length, text.dropWhile (· == quote))

/-- White space and line breaks behind a backslash at the end of a line. -/
def skipToText : (tries : Nat) → List Char → List Char
  | 0, text => text
  | tries + 1, text =>
    match takeBreak? text with
    | some rest => skipToText tries rest
    | none =>
      match text with
      | c :: rest => if isBlankChar c then skipToText tries rest else text
      | [] => []

/-- The rest of a string of several lines; `escapes` tells whether a backslash means something. -/
def takeLong (quote : Char) (escapes : Bool) :
    (tries : Nat) → List Char → Option (List Char × List Char)
  | 0, _ => none
  | tries + 1, text =>
    match takeBreak? text with
    | some rest => do
      let (more, rest) ← takeLong quote escapes tries rest
      return ('\n' :: more, rest)
    | none =>
      match text with
      | [] => none
      | c :: rest =>
        if c == quote then
          let (count, behind) := quoteRun quote text
          if count < 3 then do
            let (more, rest) ← takeLong quote escapes tries behind
            return (List.replicate count quote ++ more, rest)
          else if count ≤ 5 then some (List.replicate (count - 3) quote, behind)
          else some (List.replicate 2 quote, List.replicate (count - 5) quote ++ behind)
        else if escapes && c == '\\' then
          match takeBreak? (skipBlanks rest) with
          | some after => takeLong quote escapes tries (skipToText after.length after)
          | none => do
            let (value, rest) ← takeEscape rest
            let (more, rest) ← takeLong quote escapes tries rest
            return (value :: more, rest)
        else if isPlain c then do
          let (more, rest) ← takeLong quote escapes tries rest
          return (c :: more, rest)
        else none

/-- A line break that opens a string of several lines is not part of it. -/
def dropFirstBreak (text : List Char) : List Char := (takeBreak? text).getD text

def takeString (text : List Char) : Option (String × List Char) :=
  let found := match text with
    | '"' :: '"' :: '"' :: rest => takeLong '"' true (rest.length + 1) (dropFirstBreak rest)
    | '"' :: rest => takeBasic (rest.length + 1) rest
    | '\'' :: '\'' :: '\'' :: rest => takeLong '\'' false (rest.length + 1) (dropFirstBreak rest)
    | '\'' :: rest => takeLiteral rest
    | _ => none
  found.map fun r => (String.ofList r.1, r.2)

/-- Digits of a base, with single underscores between them; the first is a digit. -/
def takeDigits (isDigit : Char → Bool) (text : List Char) : Option (List Char × List Char) :=
  match text with
  | c :: rest => if isDigit c then more (rest.length + 1) [c] rest else none
  | [] => none
where
  more : (tries : Nat) → List Char → List Char → Option (List Char × List Char)
    | 0, digits, text => some (digits, text)
    | tries + 1, digits, '_' :: c :: rest =>
      if isDigit c then more tries (digits ++ [c]) rest else none
    | _ + 1, _, ['_'] => none
    | tries + 1, digits, c :: rest =>
      if isDigit c then more tries (digits ++ [c]) rest else some (digits, c :: rest)
    | _ + 1, digits, [] => some (digits, [])

def numberOf (base : Nat) (digits : List Char) : Nat :=
  digits.foldl (fun n c => base * n + (Bytes.hexValue? c).getD 0) 0

/-- A sign, `true` for minus. -/
def takeSign : List Char → Bool × List Char
  | '-' :: rest => (true, rest)
  | '+' :: rest => (false, rest)
  | text => (false, text)

/-- The digits of a decimal number; a zero in front stands alone. -/
def takeWhole (text : List Char) : Option (List Char × List Char) :=
  match text with
  | '0' :: rest => some (['0'], rest)
  | text => takeDigits Char.isDigit text

def maxInteger : Nat := 9223372036854775807

def isOctal (c : Char) : Bool := '0' ≤ c && c ≤ '7'

def isBinary (c : Char) : Bool := c == '0' || c == '1'

def isHex (c : Char) : Bool := (Bytes.hexValue? c).isSome

def takeBased (base : Nat) (isDigit : Char → Bool) (text : List Char) :
    Option (Node × List Char) := do
  let (digits, rest) ← takeDigits isDigit text
  let n := numberOf base digits
  if n ≤ maxInteger then some (.integer n, rest) else none

def takeInteger (text : List Char) : Option (Node × List Char) :=
  match text with
  | '0' :: 'x' :: rest => takeBased 16 isHex rest
  | '0' :: 'o' :: rest => takeBased 8 isOctal rest
  | '0' :: 'b' :: rest => takeBased 2 isBinary rest
  | text => do
    let (minus, rest) := takeSign text
    let (digits, rest) ← takeWhole rest
    let n := numberOf 10 digits
    if minus then
      if n ≤ maxInteger + 1 then some (.integer (-(n : Int)), rest) else none
    else if n ≤ maxInteger then some (.integer n, rest)
    else none

/-- The double nearest to `significand` times ten to a power. -/
def realOf (significand : Nat) (exponent : Int) : Float :=
  let digits : Int := (Nat.toDigits 10 significand).length
  if significand = 0 then 0.0
  else if 400 < digits + exponent then 1.0 / 0.0
  else if digits + exponent < -400 then 0.0
  else if 0 ≤ exponent then Float.ofScientific significand false exponent.toNat
  else Float.ofScientific significand true (-exponent).toNat

def takeExponent (text : List Char) : Option (Int × List Char) :=
  match text with
  | c :: rest =>
    if c == 'e' || c == 'E' then do
      let (minus, rest) := takeSign rest
      let (digits, rest) ← takeDigits Char.isDigit rest
      let n : Int := numberOf 10 digits
      return (if minus then -n else n, rest)
    else none
  | [] => none

def takeFraction (text : List Char) : Option (List Char × List Char) :=
  match text with
  | '.' :: rest => takeDigits Char.isDigit rest
  | _ => none

/-- A number with a point or an exponent. One that is too large is refused. -/
def takeReal (text : List Char) : Option (Node × List Char) := do
  let (minus, rest) := takeSign text
  let (whole, rest) ← takeWhole rest
  let (fraction, exponent, rest) ← match takeFraction rest with
    | some (fraction, rest) =>
      match rest with
      | 'e' :: _ | 'E' :: _ => (takeExponent rest).map fun r => (fraction, r.1, r.2)
      | _ => some (fraction, 0, rest)
    | none => (takeExponent rest).map fun r => ([], r.1, r.2)
  let x := realOf (numberOf 10 (whole ++ fraction)) (exponent - fraction.length)
  if x.isInf && !minus then none
  else return (.real (if minus then -x else x), rest)

/-- `inf` and `nan`, with or without a sign. -/
def takeSpecialReal (text : List Char) : Option (Node × List Char) :=
  let (minus, rest) := takeSign text
  match rest with
  | 'i' :: 'n' :: 'f' :: rest => some (.real (if minus then -(1.0 / 0.0) else 1.0 / 0.0), rest)
  | 'n' :: 'a' :: 'n' :: rest => some (.real (0.0 / 0.0), rest)
  | _ => none

def takeFixed : (count : Nat) → List Char → Option (Nat × List Char)
  | 0, text => some (0, text)
  | count + 1, c :: rest =>
    if c.isDigit then do
      let (low, rest) ← takeFixed count rest
      return ((c.toNat - 48) * Nat.pow 10 count + low, rest)
    else none
  | _ + 1, [] => none

def takePair (low high : Nat) (text : List Char) : Option (Nat × List Char) := do
  let (n, rest) ← takeFixed 2 text
  if low ≤ n ∧ n ≤ high then some (n, rest) else none

def skipChar (c : Char) : List Char → Option (List Char)
  | d :: rest => if c == d then some rest else none
  | [] => none

def daysInMonth (year month : Nat) : Nat :=
  let leap := year % 4 = 0 ∧ (year % 100 ≠ 0 ∨ year % 400 = 0)
  match month with
  | 2 => if leap then 29 else 28
  | 4 | 6 | 9 | 11 => 30
  | _ => 31

/-- A date; the text behind it is all that counts. -/
def skipDate (text : List Char) : Option (List Char) := do
  let (year, rest) ← takeFixed 4 text
  let rest ← skipChar '-' rest
  let (month, rest) ← takePair 1 12 rest
  let rest ← skipChar '-' rest
  let (_, rest) ← takePair 1 (daysInMonth year month) rest
  return rest

def skipTime (text : List Char) : Option (List Char) := do
  let (_, rest) ← takePair 0 23 text
  let rest ← skipChar ':' rest
  let (_, rest) ← takePair 0 59 rest
  let rest ← skipChar ':' rest
  let (_, rest) ← takePair 0 60 rest
  match rest with
  | '.' :: c :: behind => if c.isDigit then some (behind.dropWhile Char.isDigit) else some rest
  | _ => some rest

/-- The distance of a time zone, if one is given. -/
def skipOffset (text : List Char) : Option (List Char) :=
  match text with
  | 'Z' :: rest | 'z' :: rest => some rest
  | '+' :: rest | '-' :: rest => do
    let (_, rest) ← takePair 0 23 rest
    let rest ← skipChar ':' rest
    let (_, rest) ← takePair 0 59 rest
    return rest
  | text => some text

/-- A date, a time, or both. A time may follow a date behind `T` or a space. -/
def takeDateTime (text : List Char) : Option (Node × List Char) :=
  match skipDate text with
  | some rest =>
    match rest with
    | c :: behind =>
      if c == 'T' || c == 't' || c == ' ' then
        match skipTime behind with
        | some after => (skipOffset after).map fun rest => (.dateTime, rest)
        | none => some (.dateTime, rest)
      else some (.dateTime, rest)
    | [] => some (.dateTime, [])
  | none => (skipTime text).map fun rest => (.dateTime, rest)

def takeNumeral (text : List Char) : Option (Node × List Char) :=
  takeDateTime text <|> takeReal text <|> takeSpecialReal text <|> takeInteger text

end ClassSwap.Toml
