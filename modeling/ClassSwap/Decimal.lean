import ClassSwap.Duration

namespace ClassSwap.Decimal

/-- A nonnegative rational; the denominator is positive in every use. -/
structure Ratio where
  num : Nat
  den : Nat
  deriving Repr

namespace Ratio

def le (a b : Ratio) : Bool := a.num * b.den ≤ b.num * a.den

def lt (a b : Ratio) : Bool := a.num * b.den < b.num * a.den

/-- `n` times two to the power `e`. -/
def scaleTwo (n : Nat) (e : Int) : Ratio :=
  if 0 ≤ e then ⟨n <<< e.toNat, 1⟩ else ⟨n, 1 <<< (-e).toNat⟩

/-- `n` times ten to the power `e`. -/
def scaleTen (n : Nat) (e : Int) : Ratio :=
  if 0 ≤ e then ⟨n * Nat.pow 10 e.toNat, 1⟩ else ⟨n, Nat.pow 10 (-e).toNat⟩

def distance (a b : Ratio) : Ratio :=
  let x := a.num * b.den
  let y := b.num * a.den
  ⟨if x ≤ y then y - x else x - y, a.den * b.den⟩

end Ratio

/-- The exponent of the leading decimal digit of a positive ratio below one; `tries` bounds it. -/
def negativeExponent (r : Ratio) : (tries : Nat) → Nat → Int
  | 0, j => -j
  | k + 1, j => if r.den ≤ r.num * 10 ^ j then -j else negativeExponent r k (j + 1)

/-- The exponent of the leading decimal digit of a positive ratio. -/
def leadExponent (r : Ratio) : Int :=
  if r.den ≤ r.num then ((toString (r.num / r.den)).length : Int) - 1
  else negativeExponent r 400 1

/-- The numbers that read back as `mantissa * 2 ^ power`. The ends belong to them when the
mantissa is even. -/
structure Interval where
  low : Ratio
  high : Ratio
  closed : Bool

def Interval.contains (i : Interval) (r : Ratio) : Bool :=
  if i.closed then i.low.le r && r.le i.high else i.low.lt r && r.lt i.high

/-- The interval of a double; below a power of two the next number is only half as far. -/
def intervalOf (mantissa : Nat) (power : Int) : Interval :=
  let quarter := power - 2
  let below := if mantissa = 1 <<< 52 ∧ -1074 < power then 1 else 2
  ⟨Ratio.scaleTwo (4 * mantissa - below) quarter, Ratio.scaleTwo (4 * mantissa + 2) quarter,
    mantissa % 2 = 0⟩

/-- Digits and the exponent of the last one, for the first count of digits that has a hit. -/
def searchDigits (value : Ratio) (range : Interval) (lead : Int) :
    (tries : Nat) → (count : Nat) → Nat × Int
  | 0, _ => (0, 0)
  | tries + 1, count =>
    let unit := lead - (count : Int) + 1
    let one := Ratio.scaleTen 1 unit
    let floor := value.num * one.den / (value.den * one.num)
    let down := Ratio.scaleTen floor unit
    let up := Ratio.scaleTen (floor + 1) unit
    match range.contains down, range.contains up with
    | true, true =>
      if (value.distance up).lt (value.distance down) then (floor + 1, unit) else (floor, unit)
    | true, false => (floor, unit)
    | false, true => (floor + 1, unit)
    | false, false => searchDigits value range lead tries (count + 1)

/-- Shortest digits of `mantissa * 2 ^ power` without trailing zeros, and the exponent of the
leading digit. -/
def shortest (mantissa : Nat) (power : Int) : List Char × Int :=
  let value := Ratio.scaleTwo mantissa power
  let (digits, unit) := searchDigits value (intervalOf mantissa power) (leadExponent value) 18 1
  let text := (toString digits).toList
  let kept := (text.reverse.dropWhile (· == '0')).reverse
  (kept, unit + (text.length : Int) - 1)

/-- Positional notation with a point, of digits whose first one has the exponent `lead`. -/
def positional (digits : List Char) (lead : Int) : String :=
  let count : Int := digits.length
  if lead < 0 then "0." ++ "".pushn '0' ((-lead).toNat - 1) ++ String.ofList digits
  else if count ≤ lead + 1 then
    String.ofList digits ++ "".pushn '0' (lead + 1 - count).toNat ++ ".0"
  else
    String.ofList (digits.take (lead + 1).toNat) ++ "."
      ++ String.ofList (digits.drop (lead + 1).toNat)

/-- One digit before the point and an exponent with a sign and at least two digits. -/
def scientific (digits : List Char) (lead : Int) : String :=
  let mantissa :=
    match digits with
    | [] => "0"
    | [d] => d.toString
    | d :: rest => d.toString ++ "." ++ String.ofList rest
  mantissa ++ (if lead < 0 then "e-" else "e+") ++ Duration.padded 2 lead.natAbs

/-- How a format writes a finite number: the exponents it writes positionally, all when `none`. -/
structure Style where
  positionalRange : Option (Int × Int)

def Style.plain : Style := ⟨none⟩

/-- Exponents outside −5 to 15 are written in scientific notation. -/
def Style.compact : Style := ⟨some (-5, 15)⟩

def Style.text (style : Style) (x : Float) : String :=
  let bits := x.toBits.toNat
  let sign := if bits >>> 63 = 1 then "-" else ""
  let biased : Nat := (bits >>> 52) % 2048
  let fraction : Nat := bits % (1 <<< 52)
  if biased = 2047 then
    if fraction = 0 then sign ++ "inf" else "NaN"
  else if biased = 0 ∧ fraction = 0 then sign ++ "0.0"
  else
    let (digits, lead) :=
      if biased = 0 then shortest fraction (-1074)
      else shortest ((1 <<< 52) + fraction) ((biased : Int) - 1075)
    match style.positionalRange with
    | none => sign ++ positional digits lead
    | some (low, high) =>
      sign ++ (if low ≤ lead ∧ lead ≤ high then positional digits lead else scientific digits lead)

end ClassSwap.Decimal
