import PluginHost.Decimal.Shortest
import PluginHost.Path
import PluginHost.Text.Quoted

/-!
Why a document value does not have the shape that a record asks for, or a record cannot be written
as one.
-/
namespace PluginHost

/-- What stands in the place of an expected value. Whole numbers say whether their notation admits
a sign. -/
inductive Found
  | null
  | bool (b : Bool)
  | signed (n : Int)
  | unsigned (n : Nat)
  | float (x : Binary64)
  | str (s : String)
  | seq
  | map
  deriving DecidableEq

inductive ShapeFault
  | invalidType (found : Found) (expected : String)
  | invalidValue (found : Found) (expected : String)
  | invalidLength (length : Nat) (expected : String)
  | unknownField (name : String) (known : List String)
  | unknownVariant (name : String) (known : List String)
  | missingField (name : String)
  deriving DecidableEq

inductive WriteFault
  | pathNotUtf8
  deriving DecidableEq

def WriteFault.message : WriteFault → String
  | pathNotUtf8 => "path contains invalid UTF-8 characters"

namespace Found

/-- Shortest digits, positional with a point from `1e-5` up to below `1e16`, else with an
exponent and its sign. -/
def exponentText (x : Binary64) : String :=
  if x.isNaN then "NaN"
  else
    let sign := if x.isNegative then "-" else ""
    if !x.isFinite then sign ++ "inf"
    else if x.magnitude = 0 then sign ++ "0.0"
    else
      let (n, k) := x.shortest
      let digits := Nat.toDigits 10 n
      let zeros := (digits.reverse.takeWhile (· == '0')).length
      let digits := digits.take (digits.length - zeros)
      let k := k + zeros
      let top : Int := digits.length + k
      sign ++
        if -5 < top && top ≤ 16 then
          let text := Binary64.positional digits k
          String.ofList (if text.contains '.' then text else text ++ ['.', '0'])
        else
          let body := match digits with
            | [d] => [d]
            | d :: rest => d :: '.' :: rest
            | [] => []
          String.ofList body ++ (if 0 < top then "e+" else "e") ++ toString (top - 1)

def inDocument : Found → String
  | null => "null"
  | bool b => s!"boolean `{b}`"
  | signed n => s!"integer `{n}`"
  | unsigned n => s!"integer `{n}`"
  | float x => s!"floating point `{exponentText x}`"
  | str s => s!"string {Text.quoted s}"
  | seq => "sequence"
  | map => "map"

def inLayer : Found → String
  | null => "unit"
  | bool b => s!"bool {b}"
  | signed n => s!"signed int `{n}`"
  | unsigned n => s!"unsigned int `{n}`"
  | float x => s!"float `{x.decimalText}`"
  | str s => s!"string {Text.quoted s}"
  | seq => "sequence"
  | map => "map"

end Found

def choices : List String → String
  | [] => "nothing"
  | [a] => s!"`{a}`"
  | [a, b] => s!"`{a}` or `{b}`"
  | names => "one of " ++ ", ".intercalate (names.map fun n => s!"`{n}`")

namespace ShapeFault

def messageWith (describe : Found → String) : ShapeFault → String
  | invalidType found expected => s!"invalid type: {describe found}, expected {expected}"
  | invalidValue found expected => s!"invalid value: {describe found}, expected {expected}"
  | invalidLength length expected => s!"invalid length {length}, expected {expected}"
  | unknownField name [] => s!"unknown field `{name}`, there are no fields"
  | unknownField name known => s!"unknown field `{name}`, expected {choices known}"
  | unknownVariant name [] => s!"unknown variant `{name}`, there are no variants"
  | unknownVariant name known => s!"unknown variant `{name}`, expected {choices known}"
  | missingField name => s!"missing field `{name}`"

def message : ShapeFault → String := messageWith Found.inDocument

end ShapeFault

def Path.written (p : Path) : Except WriteFault String :=
  match p.utf8? with
  | some s => pure s
  | none => throw .pathNotUtf8

end PluginHost
