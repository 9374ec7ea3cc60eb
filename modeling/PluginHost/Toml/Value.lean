import PluginHost.Toml.Number
import PluginHost.Value

/-!
What a TOML text holds, and the document value that it gives. The entries of a table stand in the
order in which its keys came to be; an object has them in key order.
-/
namespace PluginHost.Toml

inductive Item
  | str (s : String)
  | int (n : Int)
  | float (x : Binary64)
  | bool (b : Bool)
  | moment (text : String)
  | arr (items : List Item)
  | table (entries : List (String × Item))
  deriving Inhabited

def momentKey : String := "$__toml_private_datetime"

namespace Item

mutual

/-- Whether two items are equal, computed along both. -/
def same : Item → Item → Bool
  | .str s, .str t => s == t
  | .int m, .int n => m == n
  | .float x, .float y => x == y
  | .bool b, .bool c => b == c
  | .moment s, .moment t => s == t
  | .arr items, .arr others => sameItems items others
  | .table entries, .table others => sameEntries entries others
  | _, _ => false

def sameItems : List Item → List Item → Bool
  | [], [] => true
  | item :: items, other :: others => same item other && sameItems items others
  | _, _ => false

def sameEntries : List (String × Item) → List (String × Item) → Bool
  | [], [] => true
  | (key, item) :: entries, (otherKey, other) :: others =>
    key == otherKey && same item other && sameEntries entries others
  | _, _ => false

end

mutual

theorem same_iff : ∀ item other : Item, same item other = true ↔ item = other
  | .arr items, other => by cases other <;> simp [same, sameItems_iff items]
  | .table entries, other => by cases other <;> simp [same, sameEntries_iff entries]
  | .str _, other | .int _, other | .float _, other | .bool _, other | .moment _, other => by
    cases other <;> simp [same]

theorem sameItems_iff : ∀ items others : List Item, sameItems items others = true ↔ items = others
  | [], others => by cases others <;> simp [sameItems]
  | item :: items, others => by
    cases others <;> simp [sameItems, same_iff item, sameItems_iff items]

theorem sameEntries_iff :
    ∀ entries others : List (String × Item), sameEntries entries others = true ↔ entries = others
  | [], others => by cases others <;> simp [sameEntries]
  | (_, item) :: entries, others => by
    cases others <;> simp [sameEntries, same_iff item, sameEntries_iff entries, Prod.ext_iff]

end

instance : DecidableEq Item := fun item other => decidable_of_iff _ (same_iff item other)

/-- A table that starts with the key of a date or time is read as one. -/
def startsMoment (entries : List (String × Item)) : Bool :=
  entries.head?.any fun e => e.1 == momentKey

def ofMoment (text : String) : Value := .obj [(momentKey, .str text)]

/-- The date or time that a table starts with, if it is one. The rest of the table is dropped. -/
def heldMoment? : List (String × Item) → Option Value
  | (_, .str s) :: _ => (momentOf? s).map ofMoment
  | _ => none

mutual

def toValue? : Item → Option Value
  | .str s => some (.str s)
  | .int n => some (.int n)
  | .float x => some (Value.ofFloat x)
  | .bool b => some (.bool b)
  | .moment text => some (ofMoment text)
  | .arr items => do pure (.arr (← toValues? items))
  | .table entries =>
    if startsMoment entries then heldMoment? entries else do pure (.obj (← toFields? entries))

def toValues? : List Item → Option (List Value)
  | [] => some []
  | item :: rest => do pure ((← item.toValue?) :: (← toValues? rest))

def toFields? : List (String × Item) → Option (List (String × Value))
  | [] => some []
  | (key, item) :: rest => do
    let value ← item.toValue?
    pure (Keyed.insert key value (← toFields? rest))

end

end Item

end PluginHost.Toml
