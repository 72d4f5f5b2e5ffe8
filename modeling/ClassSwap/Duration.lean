namespace ClassSwap

structure Duration where
  nanos : Nat
  deriving DecidableEq, Repr

namespace Duration

def ofMillis (n : Nat) : Duration := ⟨n * 1000000⟩

def ofSecs (n : Nat) : Duration := ⟨n * 1000000000⟩

/-- Decimal digits of `n`, padded with zeros in front to `width`. -/
def padded (width n : Nat) : String :=
  let digits := toString n
  "".pushn '0' (width - digits.length) ++ digits

/-- A whole number of units and a fraction of `width` decimal places, without trailing zeros. -/
def withFraction (whole fraction width : Nat) : String :=
  let places := (((padded width fraction).toList.reverse).dropWhile (· == '0')).reverse
  if places.isEmpty then toString whole else toString whole ++ "." ++ String.ofList places

/-- The largest of the units `s`, `ms`, `µs` and `ns` that fits at least once, with an exact
fraction. -/
def text (d : Duration) : String :=
  if 1000000000 ≤ d.nanos then
    withFraction (d.nanos / 1000000000) (d.nanos % 1000000000) 9 ++ "s"
  else if 1000000 ≤ d.nanos then withFraction (d.nanos / 1000000) (d.nanos % 1000000) 6 ++ "ms"
  else if 1000 ≤ d.nanos then withFraction (d.nanos / 1000) (d.nanos % 1000) 3 ++ "µs"
  else toString d.nanos ++ "ns"

end Duration

end ClassSwap
