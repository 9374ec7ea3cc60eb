/-!
Binary floating point numbers of 64 bits, told apart by their bits, and the rounding of an exact
quotient to the nearest of them (ties go to the even neighbour).
-/
namespace PluginHost

structure Binary64 where
  bits : UInt64
  deriving DecidableEq, Inhabited

namespace Binary64

def signBit : Nat := 0x8000000000000000

/-- The lowest bit of the exponent field, and the leading bit of a full mantissa. -/
def leadingBit : Nat := 0x10000000000000

/-- Bits of the exponent field when all are set: infinities and NaN. -/
def infinityBits : Nat := 0x7FF0000000000000

def ofSign (negative : Bool) (magnitude : Nat) : Binary64 :=
  ⟨(if negative then signBit + magnitude else magnitude).toUInt64⟩

def isNegative (x : Binary64) : Bool := signBit ≤ x.bits.toNat

def magnitude (x : Binary64) : Nat := x.bits.toNat % signBit

def isFinite (x : Binary64) : Bool := x.magnitude < infinityBits

def isNaN (x : Binary64) : Bool := infinityBits < x.magnitude

/-- A finite magnitude is `mantissa * 2 ^ exponent`. -/
def mantissa (x : Binary64) : Nat :=
  let e := x.magnitude / leadingBit
  let f := x.magnitude % leadingBit
  if e = 0 then f else leadingBit + f

def exponent (x : Binary64) : Int :=
  let e : Nat := x.magnitude / leadingBit
  if e = 0 then -1074 else (e : Int) - 1075

/-- `num / den`, rounded to the nearest natural number, ties to the even one. -/
def divideToEven (num den : Nat) : Nat :=
  let q := num / den
  let r := num % den
  if 2 * r < den then q
  else if den < 2 * r then q + 1
  else if q % 2 = 0 then q else q + 1

/-- The largest `e` with `2 ^ 52 * 2 ^ e ≤ num / den`, but at least that of the subnormal numbers. -/
def scaleOf (num den : Nat) : Int :=
  let guess : Int := (Nat.log2 num : Int) - (Nat.log2 den : Int) - 52
  let fits : Bool :=
    if 0 ≤ guess then leadingBit * Nat.pow 2 guess.toNat * den ≤ num
    else leadingBit * den ≤ num * Nat.pow 2 (-guess).toNat
  max (-1074) (if fits then guess else guess - 1)

def nearestBits (num den : Nat) : Nat :=
  if num = 0 then 0
  else
    let e := scaleOf num den
    let q :=
      if 0 ≤ e then divideToEven num (den * Nat.pow 2 e.toNat)
      else divideToEven (num * Nat.pow 2 (-e).toNat) den
    min infinityBits ((e + 1074).toNat * leadingBit + q)

def digitCount (n : Nat) : Nat := (Nat.toDigits 10 n).length

def ofDecimal (negative : Bool) (digits : Nat) (exp10 : Int) : Binary64 :=
  let top : Int := digitCount digits + exp10
  ofSign negative <|
    if digits = 0 || top < -330 then 0
    else if 320 < top then infinityBits
    else if 0 ≤ exp10 then nearestBits (digits * Nat.pow 10 exp10.toNat) 1
    else nearestBits digits (Nat.pow 10 (-exp10).toNat)

def nan : Binary64 := ⟨0x7FF8000000000000⟩

def infinity (negative : Bool) : Binary64 := ofSign negative infinityBits

end Binary64

end PluginHost
