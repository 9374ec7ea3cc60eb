import PluginHost.Decimal.Binary64

/-!
The fewest decimal digits that read back as the same number, and among those the nearest ones.
`decimalText` writes them positionally, without an exponent.
-/
namespace PluginHost.Binary64

/-- The open or closed interval of quotients that round to a number, over one denominator. -/
structure Interval where
  value : Nat
  low : Nat
  high : Nat
  closed : Bool
  den : Nat

/-- The neighbours' midpoints enclose what rounds to `m * 2 ^ q`; below a power of two the lower
neighbour is half as far. -/
def interval (x : Binary64) : Interval :=
  let m := x.mantissa
  let q := x.exponent
  let up : Nat := if 0 ≤ q then Nat.pow 2 q.toNat else 1
  let den : Nat := if 0 ≤ q then 4 else 4 * Nat.pow 2 (-q).toNat
  let below := if m = leadingBit && -1074 < q then 1 else 2
  { value := 4 * m * up, low := (4 * m - below) * up, high := (4 * m + 2) * up
    closed := m % 2 = 0, den := den }

def Interval.holds (i : Interval) (num den : Nat) : Bool :=
  if i.closed then i.low * den ≤ num * i.den && num * i.den ≤ i.high * den
  else i.low * den < num * i.den && num * i.den < i.high * den

/-- The point of the grid `10 ^ k` next to the value that lies in the interval, as a multiple of
`10 ^ k`. Of two the nearer is taken, and the larger one at equal distance. -/
def Interval.onGrid (i : Interval) (k : Int) : Option Nat :=
  let num : Nat := if 0 ≤ k then i.value else i.value * Nat.pow 10 (-k).toNat
  let den : Nat := if 0 ≤ k then i.den * Nat.pow 10 k.toNat else i.den
  let a := num / den
  let inside (n : Nat) : Bool :=
    if 0 ≤ k then i.holds (n * Nat.pow 10 k.toNat) 1 else i.holds n (Nat.pow 10 (-k).toNat)
  match inside a, inside (a + 1) with
  | true, true => some (if 2 * (num % den) < den then a else a + 1)
  | true, false => some a
  | false, true => some (a + 1)
  | false, false => none

def Interval.search (i : Interval) : Nat → Int → Nat × Int
  | 0, k => (i.value / i.den, k)
  | fuel + 1, k =>
    match i.onGrid k with
    | some n => (n, k)
    | none => i.search fuel (k - 1)

/-- `(n, k)` with `n * 10 ^ k` the shortest decimal that reads back as the magnitude of `x`. -/
def shortest (x : Binary64) : Nat × Int :=
  let i := x.interval
  let whole := i.value / i.den
  let k : Int :=
    if 0 < whole then (digitCount whole : Int)
    else -((Nat.toDigits 10 (i.den / i.value)).length : Int) + 1
  i.search 40 k

/-- Digits and a point, never an exponent; a whole number has no point. -/
def positional (digits : List Char) (k : Int) : List Char :=
  if 0 ≤ k then digits ++ List.replicate k.toNat '0'
  else
    let places := (-k).toNat
    let padded := List.replicate (places + 1 - digits.length) '0' ++ digits
    let whole := padded.take (padded.length - places)
    let fraction := padded.drop (padded.length - places)
    whole ++ '.' :: fraction

def decimalText (x : Binary64) : String :=
  if x.isNaN then "NaN"
  else
    let sign := if x.isNegative then "-" else ""
    if !x.isFinite then sign ++ "inf"
    else if x.magnitude = 0 then sign ++ "0"
    else
      let (n, k) := x.shortest
      sign ++ String.ofList (positional (Nat.toDigits 10 n) k)

end PluginHost.Binary64
