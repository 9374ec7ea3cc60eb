import PluginHost.Text.Age
import PluginHost.Text.Break

/-!
Sets of characters by the names that patterns have for them.
-/
namespace PluginHost.Pattern.CharClass

open Text (CharSet Category)

def digit : CharSet := Category.set [.decimalNumber]

def space : CharSet := Text.Property.whiteSpace

/-- What words are made of: letters and the like, marks, digits, connecting punctuation, joiners. -/
def word : CharSet :=
  .sum [Text.Property.alphabetic, Text.Property.joinControl,
    Category.set (.decimalNumber :: .connectorPunctuation :: Category.marks)]

def asciiDigit : CharSet := .range 48 57

def asciiSpace : CharSet := .ofChars "\t\n\x0b\x0c\r "

def asciiUpper : CharSet := .range 65 90

def asciiLower : CharSet := .range 97 122

def asciiAlpha : CharSet := asciiUpper.union asciiLower

def asciiAlnum : CharSet := asciiAlpha.union asciiDigit

def asciiWord : CharSet := asciiAlnum.union (.ofChars "_")

def asciiCaseClosure (s : CharSet) : CharSet :=
  let both (i : Nat) : List (Nat × Nat) := [(65 + i, 65 + i), (97 + i, 97 + i)]
  let held := (List.range 26).filter fun i => s.contains (65 + i) || s.contains (97 + i)
  s.union (.ofRanges (held.flatMap both))

def ofAsciiName? : String → Option CharSet
  | "alnum" => some asciiAlnum
  | "alpha" => some asciiAlpha
  | "ascii" => some (.range 0 127)
  | "blank" => some (.ofChars "\t ")
  | "cntrl" => some ((CharSet.range 0 31).union (.singleton 127))
  | "digit" => some asciiDigit
  | "graph" => some (.range 33 126)
  | "lower" => some asciiLower
  | "print" => some (.range 32 126)
  | "punct" => some ((CharSet.range 33 126).diff asciiAlnum)
  | "space" => some asciiSpace
  | "upper" => some asciiUpper
  | "word" => some asciiWord
  | "xdigit" => some (.ofText "30-39 41-46 61-66")
  | _ => none

/-- A name as it is compared: small letters, without blanks, hyphens, underscores and a leading
`is`. -/
def looseName (name : String) : String :=
  let small := name.toList.map Char.toLower
  let isRest := match small with
    | 'i' :: 's' :: rest => some rest
    | _ => none
  let kept := (isRest.getD small).filter fun c => c != ' ' && c != '_' && c != '-' && c.toNat < 128
  if isRest.isSome && kept == ['c'] then "isc" else String.ofList kept

def categories : List (String × String × List Category) := [
  ("lu", "uppercaseletter", [.uppercaseLetter]),
  ("ll", "lowercaseletter", [.lowercaseLetter]),
  ("lt", "titlecaseletter", [.titlecaseLetter]),
  ("lc", "casedletter", [.uppercaseLetter, .lowercaseLetter, .titlecaseLetter]),
  ("lm", "modifierletter", [.modifierLetter]),
  ("lo", "otherletter", [.otherLetter]),
  ("l", "letter", Category.letters),
  ("mn", "nonspacingmark", [.nonspacingMark]),
  ("mc", "spacingmark", [.spacingMark]),
  ("me", "enclosingmark", [.enclosingMark]),
  ("m", "mark", Category.marks),
  ("m", "combiningmark", Category.marks),
  ("nd", "decimalnumber", [.decimalNumber]),
  ("nd", "digit", [.decimalNumber]),
  ("nl", "letternumber", [.letterNumber]),
  ("no", "othernumber", [.otherNumber]),
  ("n", "number", Category.numbers),
  ("pc", "connectorpunctuation", [.connectorPunctuation]),
  ("pd", "dashpunctuation", [.dashPunctuation]),
  ("ps", "openpunctuation", [.openPunctuation]),
  ("pe", "closepunctuation", [.closePunctuation]),
  ("pi", "initialpunctuation", [.initialPunctuation]),
  ("pf", "finalpunctuation", [.finalPunctuation]),
  ("po", "otherpunctuation", [.otherPunctuation]),
  ("p", "punctuation", Category.punctuation),
  ("p", "punct", Category.punctuation),
  ("sm", "mathsymbol", [.mathSymbol]),
  ("sc", "currencysymbol", [.currencySymbol]),
  ("sk", "modifiersymbol", [.modifierSymbol]),
  ("so", "othersymbol", [.otherSymbol]),
  ("s", "symbol", Category.symbols),
  ("zs", "spaceseparator", [.spaceSeparator]),
  ("zl", "lineseparator", [.lineSeparator]),
  ("zp", "paragraphseparator", [.paragraphSeparator]),
  ("z", "separator", Category.separators),
  ("cc", "control", [.control]),
  ("cc", "cntrl", [.control]),
  ("cf", "format", [.format]),
  ("co", "privateuse", [.privateUse]),
  ("cn", "unassigned", [.unassigned]),
  ("c", "other", Category.others)]

def ofCategoryName? (name : String) : Option CharSet :=
  match name with
  | "any" => some .all
  | "ascii" => some (.range 0 127)
  | "assigned" => some (Category.set [.unassigned]).compl
  | _ => (categories.find? fun e => e.1 == name || e.2.1 == name).map fun e => Category.set e.2.2

/-- The four letters of a script, from these or its name. Two scripts had other letters once. -/
def scriptOfName? (name : String) : Option String :=
  match name with
  | "qaac" => some "Copt"
  | "qaai" => some "Zinh"
  | "zzzz" | "unknown" => none
  | _ => (Text.Script.names.find? fun e => looseName e.1 == name || looseName e.2 == name).map (·.1)

def ofName? (name : String) : Option CharSet :=
  let name := looseName name
  (Text.Property.ofName? name).orElse fun _ =>
    (ofCategoryName? name).orElse fun _ => (scriptOfName? name).map Text.Script.set

def ofValue? (property value : String) : Option CharSet :=
  let value := looseName value
  match looseName property with
  | "gc" | "generalcategory" => ofCategoryName? value
  | "sc" | "script" => (scriptOfName? value).map Text.Script.set
  | "scx" | "scriptextensions" => (scriptOfName? value).map Text.Script.usedWith
  | "age" => Text.Age.ofName? value
  | "gcb" | "graphemeclusterbreak" => Text.Break.ofName? Text.Break.grapheme value
  | "wb" | "wordbreak" => Text.Break.ofName? Text.Break.word value
  | "sb" | "sentencebreak" => Text.Break.ofName? Text.Break.sentence value
  | _ => none

end PluginHost.Pattern.CharClass
