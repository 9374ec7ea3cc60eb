import PluginHost.Decimal.Binary64
import PluginHost.Text.Reader

/-!
Numbers, dates and times in a TOML text.
-/
namespace PluginHost.Toml

open Text Text.Reader

/-- Digits with single underscores between them; the underscores are left out. -/
def digitRun (isDigit : Char → Bool) : Reader (List Char) := do
  let first ← sat isDigit
  let rest ← many (do let _ ← maybe (char '_'); sat isDigit)
  pure (first :: rest)

def sign : Reader Bool := do
  match ← maybe (sat fun c => c == '+' || c == '-') with
  | some c => pure (c == '-')
  | none => pure false

def wholePart : Reader (List Char) := do
  match ← peek with
  | some '0' => do let c ← next; pure [c]
  | _ => digitRun Char.isDigit

def inRange (n : Int) : Reader Int :=
  if -(signedLimit : Int) ≤ n && n < signedLimit then pure n else failure

def radixInteger (mark : Char) (base : Nat) (isDigit : Char → Bool) : Reader Int := do
  word ['0', mark]
  inRange (number base (← digitRun isDigit))

def decimalInteger : Reader Int := do
  let negative ← sign
  let n : Int := number 10 (← wholePart)
  inRange (if negative then -n else n)

def integer : Reader Int :=
  orElse (radixInteger 'x' 16 isHexDigit) <|
  orElse (radixInteger 'o' 8 fun c => '0' ≤ c && c ≤ '7') <|
  orElse (radixInteger 'b' 2 fun c => c == '0' || c == '1') decimalInteger

def exponentPart : Reader Int := do
  let _ ← sat fun c => c == 'e' || c == 'E'
  let negative ← sign
  let n : Int := number 10 (← digitRun Char.isDigit)
  pure (if negative then -n else n)

/-- A number with a fraction, an exponent or both. One above all finite numbers is refused; one
below them is minus infinity. -/
def decimalFloat : Reader Binary64 := do
  let negative ← sign
  let whole ← wholePart
  let fraction ← maybe (do char '.'; digitRun Char.isDigit)
  let exponent ← maybe exponentPart
  if fraction.isNone && exponent.isNone then failure
  let fraction := fraction.getD []
  let x := Binary64.ofDecimal negative (number 10 (whole ++ fraction))
    (exponent.getD 0 - fraction.length)
  if x = Binary64.infinity false then failure else pure x

def specialFloat : Reader Binary64 := do
  let negative ← sign
  orElse (do word ['i', 'n', 'f']; pure (Binary64.infinity negative))
    (do word ['n', 'a', 'n']; pure Binary64.nan)

def twoDigits (low high : Nat) : Reader Nat := do
  let n := number 10 (← times Char.isDigit 2)
  if low ≤ n && n ≤ high then pure n else failure

def isLeapYear (year : Nat) : Bool := year % 4 = 0 && (year % 100 ≠ 0 || year % 400 = 0)

def daysIn (year month : Nat) : Nat :=
  match month with
  | 2 => if isLeapYear year then 29 else 28
  | 4 | 6 | 9 | 11 => 30
  | _ => 31

def padded (width n : Nat) : String :=
  let ds := Nat.toDigits 10 n
  String.ofList (List.replicate (width - ds.length) '0' ++ ds)

def date : Reader String := do
  let year := number 10 (← times Char.isDigit 4)
  char '-'
  let month ← twoDigits 1 12
  char '-'
  let day ← twoDigits 1 31
  if daysIn year month < day then failure
  pure s!"{padded 4 year}-{padded 2 month}-{padded 2 day}"

/-- A fraction of a second: nine digits count, and zeros at the end are not written. -/
def secondFraction : Reader String := do
  char '.'
  let digits := ((← takeWhile1 Char.isDigit).take 9).reverse.dropWhile (· == '0')
  pure (if digits.isEmpty then "" else String.ofList ('.' :: digits.reverse))

structure ClockLimits where
  hour : Nat
  offsetHour : Nat
  offsetMinute : Nat

/-- A time that stands in a TOML text as such. -/
def ClockLimits.written : ClockLimits := ⟨23, 23, 59⟩

def ClockLimits.quoted : ClockLimits := ⟨24, 99, 99⟩

def time (limits : ClockLimits) : Reader String := do
  let hour ← twoDigits 0 limits.hour
  char ':'
  let minute ← twoDigits 0 59
  char ':'
  let second ← twoDigits 0 60
  let fraction := (← maybe secondFraction).getD ""
  pure s!"{padded 2 hour}:{padded 2 minute}:{padded 2 second}{fraction}"

def offset (limits : ClockLimits) : Reader String :=
  orElse (do let _ ← sat fun c => c == 'Z' || c == 'z'; pure "Z") (do
    let c ← sat fun c => c == '+' || c == '-'
    let hour ← twoDigits 0 limits.offsetHour
    char ':'
    let minute ← twoDigits 0 limits.offsetMinute
    let minutes := 60 * hour + minute
    if 24 * 60 < minutes then failure
    let mark := if c == '-' && minutes != 0 then "-" else "+"
    pure s!"{mark}{padded 2 (minutes / 60)}:{padded 2 (minutes % 60)}")

/-- A date, a time, or both with perhaps an offset, in the form in which it is kept. -/
def moment (limits : ClockLimits) : Reader String :=
  orElse (do
    let day ← date
    let rest ← maybe (do
      let _ ← sat fun c => c == 'T' || c == 't' || c == ' '
      let clock ← time limits
      let zone := (← maybe (offset limits)).getD ""
      pure s!"T{clock}{zone}")
    pure (day ++ rest.getD "")) (time limits)

def momentOf? (text : String) : Option String := (moment .quoted).run text.toList

end PluginHost.Toml
