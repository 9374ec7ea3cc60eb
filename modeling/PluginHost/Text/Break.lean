import PluginHost.Text.Property
import PluginHost.Text.Script

/-!
The parts that characters play where text is divided into what is seen as one character, into words
and into sentences, as of version 16 of the Unicode standard.
-/
namespace PluginHost.Text.Break

open Category Property

def hex (text : String) : CharSet := .ofText text

/-- Joiners, which look like format characters and play parts of their own. -/
def joiners : CharSet := hex "200C-200D"

/-- Format characters that do not extend what stands before them or begin what stands after. -/
def plainFormat : CharSet :=
  (set [format]).diff (.sum [joiners, prependedConcatenationMark, graphemeExtend])

/-- Parts in what is seen as one character. -/
def grapheme : List (String × String × (Unit → CharSet)) := [
  ("cn", "control", fun _ =>
    CharSet.diff (.sum [set [lineSeparator, paragraphSeparator, control], plainFormat,
      (set [unassigned]).inter defaultIgnorable]) (.sum [hex "A D", graphemeExtend])),
  ("cr", "cr", fun _ => hex "D"),
  ("ex", "extend", fun _ => graphemeExtend.union emojiModifier),
  ("l", "l", fun _ => hex "1100-115F A960-A97C"),
  ("lf", "lf", fun _ => hex "A"),
  ("lv", "lv", fun _ => lv),
  ("lvt", "lvt", fun _ => (CharSet.range 0xAC00 0xD7A3).diff lv),
  ("pp", "prepend", fun _ => prependedConcatenationMark.union
    (hex "D4E 111C2-111C3 113D1 1193F 11941 11A3A 11A84-11A89 11D46 11F02")),
  ("ri", "regionalindicator", fun _ => regionalIndicator),
  ("sm", "spacingmark", fun _ =>
    CharSet.union (hex "E33 EB3") <| (set [spacingMark]).diff <| graphemeExtend.union <|
      .ofLines ["102B-102C 1038 1062-1064 1067-106D 1083 1087-108C 108F 109A-109C 1A61 1A63-1A64",
        "AA7B AA7D 11720-11721"]),
  ("t", "t", fun _ => hex "11A8-11FF D7CB-D7FB"),
  ("v", "v", fun _ => hex "1160-11A7 D7B0-D7C6 16D63 16D67-16D6A"),
  ("zwj", "zwj", fun _ => hex "200D")]
where
  /-- Hangul syllables without a final consonant, which are every 28th. -/
  lv : CharSet := .ofRanges <| (List.range 399).map fun i => (0xAC00 + 28 * i, 0xAC00 + 28 * i)

/-- Marks and joiners belong to what stands before them. -/
def extend : CharSet := .sum [graphemeExtend, set [spacingMark]]

def numeric : CharSet :=
  (set [decimalNumber]).union (hex "600-605 66B 6DD 890-891 8E2 19DA 110BD 110CD")

/-- Scripts that are written without blanks between words, in which letters do not show where words
end. -/
def unspaced : List String :=
  ["Thai", "Laoo", "Mymr", "Khmr", "Tale", "Talu", "Lana", "Tavt", "Ahom", "Hira", "Kana"]

def hebrewLetter : CharSet := (Script.set "Hebr").inter (set [otherLetter])

def katakana : CharSet := (Script.set "Kana").union (hex "3031-3035 309B-309C 30A0 30FC FF70")

def aLetter : CharSet :=
  CharSet.union
      (.ofLines ["2C2-2C5 2D2-2D7 2DE-2DF 2E5-2EB 2ED 2EF-2FF 55A-55C 55E 58A 5F3 70F",
        "A708-A716 A720-A721 A789-A78A AB5B"]) <|
    alphabetic.diff <| .sum <|
      [ideographic, katakana, extend, hebrewLetter] ++ unspaced.map Script.set

def word : List (String × String × (Unit → CharSet)) := [
  ("le", "aletter", fun _ => aLetter),
  ("cr", "cr", fun _ => hex "D"),
  ("dq", "doublequote", fun _ => hex "22"),
  ("extend", "extend", fun _ => extend.union emojiModifier),
  ("ex", "extendnumlet", fun _ => (set [connectorPunctuation]).union (hex "202F")),
  ("fo", "format", fun _ => plainFormat.diff (hex "200B")),
  ("hl", "hebrewletter", fun _ => hebrewLetter),
  ("ka", "katakana", fun _ => katakana),
  ("lf", "lf", fun _ => hex "A"),
  ("ml", "midletter", fun _ => hex "3A B7 387 55F 5F4 2027 FE13 FE55 FF1A"),
  ("mn", "midnum", fun _ =>
    hex "2C 3B 37E 589 60C-60D 66C 7F8 2044 FE10 FE14 FE50 FE54 FF0C FF1B"),
  ("mb", "midnumlet", fun _ => hex "2E 2018-2019 2024 FE52 FF07 FF0E"),
  ("nl", "newline", fun _ => hex "B-C 85 2028-2029"),
  ("nu", "numeric", fun _ => numeric),
  ("ri", "regionalindicator", fun _ => regionalIndicator),
  ("sq", "singlequote", fun _ => hex "27"),
  ("wsegspace", "wsegspace", fun _ => (set [spaceSeparator]).diff (hex "A0 2007 202F")),
  ("zwj", "zwj", fun _ => hex "200D")]

/-- Full stops that may also end an abbreviation. -/
def aTerm : CharSet := hex "2E 2024 FE52 FF0E"

def lower : CharSet := lowercase.diff (graphemeExtend.union (hex "10D0-10FA 10FD-10FF"))

def upper : CharSet := (uppercase.union titlecase).diff (.range 0x1C90 0x1CBF)

def sentence : List (String × String × (Unit → CharSet)) := [
  ("at", "aterm", fun _ => aTerm),
  ("cl", "close", fun _ =>
    (set [openPunctuation, closePunctuation, initialPunctuation, finalPunctuation]).union
      (hex "22 27 275B-2760 2E00-2E01 2E06-2E08 2E0B 1F676-1F678")),
  ("cr", "cr", fun _ => hex "D"),
  ("ex", "extend", fun _ => extend.union (hex "200D")),
  ("fo", "format", fun _ => plainFormat.union (hex "70F")),
  ("lf", "lf", fun _ => hex "A"),
  ("lo", "lower", fun _ => lower),
  ("nu", "numeric", fun _ => numeric.union (hex "66C")),
  ("le", "oletter", fun _ =>
    (alphabetic.diff (.sum [lower, upper, extend])).union (hex "5F3")),
  ("sc", "scontinue", fun _ =>
    .ofLines ["2C-2D 3A-3B 37E 55D 60C-60D 7F8 1802 1808 2013-2014 3001 FE10-FE11 FE13-FE14 FE31-FE32",
      "FE50-FE51 FE54-FE55 FE58 FE63 FF0C-FF0D FF1A-FF1B FF64"]),
  ("se", "sep", fun _ => hex "85 2028-2029"),
  ("sp", "sp", fun _ => (set [spaceSeparator]).union (hex "9 B-C")),
  ("st", "sterm", fun _ => sentenceTerminal.diff aTerm),
  ("up", "upper", fun _ => upper)]

def ofName? (parts : List (String × String × (Unit → CharSet))) (name : String) : Option CharSet :=
  (parts.find? fun e => e.1 == name || e.2.1 == name).map fun e => e.2.2 ()

end PluginHost.Text.Break
