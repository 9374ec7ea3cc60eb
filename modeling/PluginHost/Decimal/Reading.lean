import PluginHost.Decimal.Binary64
import PluginHost.Text.Reader

/-!
Decimal notation read as a floating point number: a sign, digits with perhaps a point among them or
at either end, and an exponent.
-/
namespace PluginHost.Binary64

open Text Text.Reader

def signChar : Reader Bool := do
  match ← maybe (sat fun c => c == '+' || c == '-') with
  | some c => pure (c == '-')
  | none => pure false

def exponent10 : Reader Int := do
  let _ ← sat fun c => c == 'e' || c == 'E'
  let negative ← signChar
  let n : Int := number 10 (← takeWhile1 Char.isDigit)
  pure (if negative then -n else n)

def decimal : Reader Binary64 := do
  let negative ← signChar
  let whole ← takeWhile Char.isDigit
  let fraction ← maybe (do char '.'; takeWhile Char.isDigit)
  let fraction := fraction.getD []
  if whole.isEmpty && fraction.isEmpty then failure
  let exponent ← maybe exponent10
  pure (ofDecimal negative (number 10 (whole ++ fraction)) (exponent.getD 0 - fraction.length))

/-- The number that a whole text writes, which may be an infinity if it is too large. -/
def ofText? (text : List Char) : Option Binary64 := decimal.run text

end PluginHost.Binary64
