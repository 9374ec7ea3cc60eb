import PluginHost.Text.Property

/-!
Texts in double quotes. What cannot be seen, and marks that would join the character before them,
are written by their code point.
-/
namespace PluginHost.Text

/-- Marks, and characters that join the one before them although their category does not say so.
The two marks that follow Katakana of half width stand on their own. -/
def joinsBefore : CharSet :=
  Property.otherGraphemeExtend.diff (.range 0xFF9E 0xFF9F)

def extendsGrapheme (c : Char) : Bool :=
  if c.toNat < 0x300 then false
  else match Category.of c with
    | .nonspacingMark | .enclosingMark => true
    | _ => joinsBefore.contains c.toNat

def isPrintable (c : Char) : Bool :=
  if c.toNat < 0x7f then 0x20 ≤ c.toNat
  else match Category.of c with
    | .control | .format | .surrogate | .privateUse | .unassigned => false
    | .spaceSeparator | .lineSeparator | .paragraphSeparator => false
    | _ => !Property.otherDefaultIgnorable.contains c.toNat

def escape (c : Char) : List Char :=
  if c.toNat = 0 then ['\\', '0']
  else if c = '\t' then ['\\', 't']
  else if c = '\r' then ['\\', 'r']
  else if c = '\n' then ['\\', 'n']
  else if c = '\\' || c = '"' then ['\\', c]
  else if !extendsGrapheme c && isPrintable c then [c]
  else ['\\', 'u', '\x7b'] ++ Nat.toDigits 16 c.toNat ++ ['\x7d']

def quoted (s : String) : String :=
  String.ofList ('"' :: s.toList.flatMap escape ++ ['"'])

end PluginHost.Text
