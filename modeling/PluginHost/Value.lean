import PluginHost.Keyed
import PluginHost.Decimal.Binary64

/-!
Document values: what a definition file, a plugin configuration or a settings file holds once it is
read. Objects are association lists; `WellFormed` says that each lists its keys in strict order.
-/
namespace PluginHost

inductive Value
  | null
  | bool (b : Bool)
  | int (n : Int)
  | float (x : Binary64)
  | str (s : String)
  | arr (items : List Value)
  | obj (fields : List (String × Value))
  deriving Inhabited

namespace Value

mutual

def WellFormed : Value → Prop
  | .arr items => WellFormedItems items
  | .obj fields => Keyed.Ordered fields ∧ WellFormedFields fields
  | _ => True

def WellFormedItems : List Value → Prop
  | [] => True
  | v :: rest => v.WellFormed ∧ WellFormedItems rest

def WellFormedFields : List (String × Value) → Prop
  | [] => True
  | (_, v) :: rest => v.WellFormed ∧ WellFormedFields rest

end

def ofMap (m : KeyedMap Value) : Value := .obj m.entries

/-- A float that is not finite has no place in a document and becomes null. -/
def ofFloat (x : Binary64) : Value := if x.isFinite then .float x else .null

end Value

abbrev Configuration := KeyedMap Value

namespace Configuration

mutual

def mergeValue : Value → Value → Value
  | lower, .obj upper =>
    match lower with
    | .obj fields => .obj (mergeFields fields upper)
    | _ => .obj upper
  | _, upper => upper

/-- Lay the fields of `upper` one after the other over `fields`. -/
def mergeFields : List (String × Value) → List (String × Value) → List (String × Value)
  | fields, [] => fields
  | fields, (key, upper) :: rest =>
    let merged := match Keyed.get? key fields with
      | some lower => mergeValue lower upper
      | none => upper
    mergeFields (Keyed.insert key merged fields) rest

end

theorem ordered_mergeFields {fields upper : List (String × Value)} (h : Keyed.Ordered fields) :
    Keyed.Ordered (mergeFields fields upper) := by
  induction upper generalizing fields with
  | nil => simpa [mergeFields] using h
  | cons e rest ih => simpa [mergeFields] using ih (Keyed.ordered_insert h)

def merge (defaults upper : Configuration) : Configuration :=
  ⟨mergeFields defaults.entries upper.entries, ordered_mergeFields defaults.ordered⟩

end Configuration

end PluginHost
