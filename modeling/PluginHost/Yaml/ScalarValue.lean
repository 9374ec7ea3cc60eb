import PluginHost.Decimal.Reading
import PluginHost.Value

/-!
What a scalar stands for. A plain scalar is null, a boolean, a number or else a text by its look, and
a tag can ask for one of these.
-/
namespace PluginHost.Yaml

open Text (number signedLimit wordLimit)

def isNullWord (text : List Char) : Bool :=
  ["null", "Null", "NULL", "~"].any fun w => w.toList == text

def boolean? (text : List Char) : Option Bool :=
  if ["true", "True", "TRUE"].any fun w => w.toList == text then some true
  else if ["false", "False", "FALSE"].any fun w => w.toList == text then some false
  else none

def natural? (base : Nat) (isDigit : Char → Bool) (digits : List Char) : Option Nat :=
  if digits.isEmpty || !digits.all isDigit then none else some (number base digits)

def radixNatural? (text : List Char) : Option Nat :=
  match text with
  | '0' :: 'x' :: digits => natural? 16 Text.isHexDigit digits
  | '0' :: 'o' :: digits => natural? 8 (fun c => '0' ≤ c && c ≤ '7') digits
  | '0' :: 'b' :: digits => natural? 2 (fun c => c == '0' || c == '1') digits
  | _ => none

/-- Only zero itself may begin with a zero. -/
def hasLeadingZero (digits : List Char) : Bool :=
  digits.head? == some '0' && 1 < digits.length && digits.all Char.isDigit

def magnitude? (text : List Char) : Option Nat :=
  match radixNatural? text with
  | some n => some n
  | none => if hasLeadingZero text then none else natural? 10 Char.isDigit text

def integer? (text : List Char) : Option Int :=
  match text with
  | '-' :: rest => (magnitude? rest).map fun n => -n
  | '+' :: rest => (magnitude? rest).map fun n => n
  | _ => (magnitude? text).map fun n => n

def fitsWord (n : Int) : Bool := -(signedLimit : Int) ≤ n && n < wordLimit

def fitsDoubleWord (n : Int) : Bool :=
  -(signedLimit * wordLimit : Int) ≤ n && n < wordLimit * wordLimit

/-- A floating point number; one with a sign of its own takes no second one. -/
def float? (text : List Char) : Option Binary64 :=
  let unsigned := match text with
    | '+' :: '+' :: _ | '+' :: '-' :: _ => []
    | '+' :: rest => rest
    | _ => text
  if [".inf", ".Inf", ".INF"].any fun w => w.toList == unsigned then some (.infinity false)
  else if ["-.inf", "-.Inf", "-.INF"].any fun w => w.toList == text then some (.infinity true)
  else if [".nan", ".NaN", ".NAN"].any fun w => w.toList == text then some .nan
  else (Binary64.ofText? unsigned).filter Binary64.isFinite

/-- A scalar as a whole number: nothing if it is none, and a failure if it is too large to keep but
not so large that it counts as a floating point number. -/
def wholeNumber (text : List Char) : Option (Option Value) :=
  match integer? text with
  | some n => if fitsWord n then some (some (.int n)) else if fitsDoubleWord n then none else some none
  | none => some none

def plainValue (text : List Char) : Option Value :=
  if text.isEmpty || isNullWord text then some .null
  else match boolean? text with
    | some b => some (.bool b)
    | none => do
      match ← wholeNumber text with
      | some v => some v
      | none =>
        let digits := match text with
          | '-' :: rest | '+' :: rest => rest
          | _ => text
        match if hasLeadingZero digits then none else float? text with
        | some x => some (Value.ofFloat x)
        | none => some (.str (String.ofList text))

def coreTag (name : String) : List Char := ("tag:yaml.org,2002:" ++ name).toList

/-- A scalar with a tag. Tags other than those of booleans, numbers and null leave it a text. -/
def taggedValue (tag text : List Char) : Option Value :=
  if tag == coreTag "bool" then (boolean? text).map .bool
  else if tag == coreTag "int" then (wholeNumber text).join
  else if tag == coreTag "float" then (float? text).map Value.ofFloat
  else if tag == coreTag "null" then if isNullWord text then some .null else none
  else some (.str (String.ofList text))

end PluginHost.Yaml
