/-!
Texts as the operating system keeps them: bytes, of which nothing says that they are UTF-8. Where
such a text is shown, what is no character gives way to U+FFFD, so that different texts may be shown
alike.
-/
namespace PluginHost

structure OsText where
  bytes : List UInt8
  deriving DecidableEq, Inhabited

namespace OsText

def ofString (s : String) : OsText := ⟨s.toUTF8.data.toList⟩

instance : Coe String OsText := ⟨ofString⟩

instance : Append OsText := ⟨fun a b => ⟨a.bytes ++ b.bytes⟩⟩

def intercalate (separator : OsText) (texts : List OsText) : OsText :=
  ⟨separator.bytes.intercalate (texts.map bytes)⟩

/-! Byte by byte, the order of directory entries. -/

instance : LT OsText := ⟨fun a b => a.bytes < b.bytes⟩

instance : LE OsText := ⟨fun a b => a.bytes ≤ b.bytes⟩

instance : DecidableLT OsText := fun a b => inferInstanceAs (Decidable (a.bytes < b.bytes))

instance : Std.IsPreorder OsText where
  le_refl a := Std.IsPreorder.le_refl a.bytes
  le_trans a b c := Std.IsPreorder.le_trans a.bytes b.bytes c.bytes

instance : Std.IsLinearOrder OsText where
  le_antisymm a b hab hba := by
    cases a
    cases b
    exact congrArg mk (Std.IsPartialOrder.le_antisymm _ _ hab hba)
  le_total a b := Std.IsLinearPreorder.le_total a.bytes b.bytes

instance : Std.LawfulOrderLT OsText where
  lt_iff a b := Std.LawfulOrderLT.lt_iff a.bytes b.bytes

/-- The text itself, if it is in UTF-8. -/
def utf8? (t : OsText) : Option String := String.fromUTF8? ⟨t.bytes.toArray⟩

/-- Only a text in UTF-8 has a suffix. -/
def hasSuffix (t : OsText) (suffix : String) : Bool := t.utf8?.any fun s => s.endsWith suffix

/-- What can be second in a character of three or four bytes. -/
def follows (first second : UInt8) : Bool :=
  let (least, greatest) :=
    if first = 0xE0 then (0xA0, 0xBF)
    else if first = 0xED then (0x80, 0x9F)
    else if first = 0xF0 then (0x90, 0xBF)
    else if first = 0xF4 then (0x80, 0x8F)
    else (0x80, 0xBF)
  0xE0 ≤ first && first ≤ 0xF4 && least ≤ second && second ≤ greatest

/-- How many of these bytes, with which no character starts, are shown as one: as many as are the
start of some character, and at least one. -/
def brokenLength : List UInt8 → Nat
  | first :: second :: rest =>
    if !follows first second then 1
    else match rest with
      | third :: _ => if 0xF0 ≤ first && 0x80 ≤ third && third ≤ 0xBF then 3 else 2
      | [] => 2
  | _ => 1

/-- The characters from some byte on, the first `n` bytes left out. -/
def charsFrom : Nat → List UInt8 → List Char
  | _, [] => []
  | n + 1, _ :: rest => charsFrom n rest
  | 0, first :: rest =>
    match ByteArray.utf8DecodeChar? ⟨(first :: rest).toArray⟩ 0 with
    | some c => c :: charsFrom (c.utf8Size - 1) rest
    | none => '\uFFFD' :: charsFrom (brokenLength (first :: rest) - 1) rest

/-- The text as it is shown. -/
def display (t : OsText) : String := .ofList (charsFrom 0 t.bytes)

end OsText

end PluginHost
