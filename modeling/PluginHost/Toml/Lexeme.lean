import PluginHost.Text.Reader

/-!
The small pieces of a TOML text: blanks, comments, line ends, strings and keys.
-/
namespace PluginHost.Toml

open Text Text.Reader

def isBlank (c : Char) : Bool := c == ' ' || c == '\t'

/-- Tab, and every character from the space on except DEL. -/
def isPlain (c : Char) : Bool := c == '\t' || (0x20 ≤ c.toNat && c.toNat ≠ 0x7F)

def blanks : Reader Unit := do let _ ← takeWhile isBlank

def newline : Reader Unit := orElse (char '\n') (word ['\r', '\n'])

def comment : Reader Unit := do
  char '#'
  let _ ← takeWhile isPlain

def lineEnd : Reader Unit := do
  blanks
  let _ ← maybe comment
  orElse newline atEnd

def gap : Reader Unit := do
  let _ ← many (orElse newline (orElse (do let _ ← sat isBlank) (do comment; newline)))

def escaped : Reader Char := do
  match ← next with
  | 'b' => pure '\x08'
  | 't' => pure '\t'
  | 'n' => pure '\n'
  | 'f' => pure '\x0c'
  | 'r' => pure '\r'
  | '"' => pure '"'
  | '\\' => pure '\\'
  | 'u' => do StateT.lift (scalar? (number 16 (← times isHexDigit 4)))
  | 'U' => do StateT.lift (scalar? (number 16 (← times isHexDigit 8)))
  | _ => failure

def basicChar : Reader Char := do
  match ← sat isPlain with
  | '"' => failure
  | '\\' => escaped
  | c => pure c

def basicString : Reader (List Char) := do
  char '"'
  let body ← many basicChar
  char '"'
  pure body

def literalString : Reader (List Char) := do
  char '\''
  let body ← takeWhile fun c => isPlain c && c != '\''
  char '\''
  pure body

/-- Quotes inside a text of several lines: at most two, and something else after them. -/
def innerQuotes (quote : Char) : Reader (List Char) := do
  let quotes ← takeWhile1 (· == quote)
  match ← peek with
  | some _ => if quotes.length ≤ 2 then pure quotes else failure
  | none => failure

/-- The closing quotes; up to two more belong to the text. -/
def closingQuotes (quote : Char) : Reader (List Char) := do
  let quotes ← takeWhile1 (· == quote)
  if 3 ≤ quotes.length && quotes.length ≤ 5 then pure (quotes.drop 3) else failure

def joinedLine : Reader (List Char) := do
  char '\\'
  blanks
  newline
  let _ ← many (orElse (do let _ ← sat isBlank) newline)
  pure []

def basicPiece : Reader (List Char) :=
  orElse (do newline; pure ['\n']) <|
  orElse joinedLine <|
  orElse (do pure [← basicChar]) (innerQuotes '"')

def multilineBasic : Reader (List Char) := do
  word ['"', '"', '"']
  let _ ← maybe newline
  let body ← many basicPiece
  let extra ← closingQuotes '"'
  pure (body.flatten ++ extra)

def literalPiece : Reader (List Char) :=
  orElse (do newline; pure ['\n']) <|
  orElse (do pure [← sat fun c => isPlain c && c != '\'']) (innerQuotes '\'')

def multilineLiteral : Reader (List Char) := do
  word ['\'', '\'', '\'']
  let _ ← maybe newline
  let body ← many literalPiece
  let extra ← closingQuotes '\''
  pure (body.flatten ++ extra)

def string : Reader String := do
  let body ← orElse multilineBasic (orElse basicString (orElse multilineLiteral literalString))
  pure (String.ofList body)

def isKeyChar (c : Char) : Bool := c.isAlphanum || c == '-' || c == '_'

def simpleKey : Reader String := do
  let body ← orElse basicString (orElse literalString (takeWhile1 isKeyChar))
  pure (String.ofList body)

/-- Dotted keys and nested values go less deep than this. -/
def depthLimit : Nat := 80

def dottedKey : Reader (List String) := do
  let keys ← separated1 (do blanks; let k ← simpleKey; blanks; pure k) (char '.')
  if keys.length < depthLimit then pure keys else failure

end PluginHost.Toml
