import PluginHost.Discovery
import PluginHost.Keyed.Lemmas

/-!
Which definitions are overridden when definitions are put into a map one after the other, and how far
that accounts for the map: every definition but the last of its id is overridden, once, by the next
one of its id.
-/
namespace PluginHost

/-- A definition that gives way to another one of its id, told by the providers of both. -/
structure Override where
  id : String
  overridden : String
  replacement : String
  deriving DecidableEq

namespace Override

def putAll (all : DefinitionMap) (given : List Definition) : DefinitionMap :=
  given.foldl (fun all d => all.insert d.id d) all

def ofEach (all : DefinitionMap) : List Definition → List Override
  | [] => []
  | d :: rest =>
    ((all.get? d.id).map fun previous => ⟨d.id, previous.provider, d.provider⟩).toList ++
      ofEach (all.insert d.id d) rest

def holders (id : String) (given : List Definition) : List Definition :=
  given.filter fun d => d.id == id

/-- Each holder of an id is overridden by the next one. -/
def chain (id : String) (holders : List Definition) : List Override :=
  holders.zipWith (fun holder next => ⟨id, holder.provider, next.provider⟩) holders.tail

/-- The overrides account for the definitions that were given and are not in the map: one for each,
and under an id they lead from its first holder to the one that the map has. -/
structure AccountFor (overrides : List Override) (given : List Definition) (all : DefinitionMap) :
    Prop where
  count : overrides.length + all.size = given.length
  chained : ∀ id, (overrides.filter fun o => o.id == id) = chain id (holders id given)
  last : ∀ id, all.get? id = (holders id given).getLast?

variable {id : String} {d : Definition}

theorem holders_cons_of_eq (h : d.id = id) (rest : List Definition) :
    holders id (d :: rest) = d :: holders id rest :=
  List.filter_cons_of_pos (by simp [h])

theorem holders_cons_of_ne (h : d.id ≠ id) (rest : List Definition) :
    holders id (d :: rest) = holders id rest :=
  List.filter_cons_of_neg (by simp [h])

theorem count_ofEach (all : DefinitionMap) (given : List Definition) :
    (ofEach all given).length + (putAll all given).size = given.length + all.size := by
  induction given generalizing all with
  | nil => exact Nat.add_comm _ _ ▸ rfl
  | cons d rest ih =>
    have hrest : (ofEach (all.insert d.id d) rest).length + (putAll all (d :: rest)).size =
        rest.length + (all.insert d.id d).size := ih (all.insert d.id d)
    have hinsert := all.size_insert d.id d
    have hmap : ∀ previous : Option Definition, (previous.map fun previous : Definition =>
        (⟨d.id, previous.provider, d.provider⟩ : Override)).toList.length =
          previous.toList.length := fun previous => by cases previous <;> rfl
    rw [ofEach, List.length_append, List.length_cons, hmap]
    omega

theorem filter_ofEach (id : String) (all : DefinitionMap) (given : List Definition) :
    ((ofEach all given).filter fun o => o.id == id) =
      chain id ((all.get? id).toList ++ holders id given) := by
  -- What stands under the id so far is the holder that the next one overrides.
  induction given generalizing all with
  | nil => cases h : all.get? id <;> rfl
  | cons d rest ih =>
    rw [ofEach, List.filter_append, ih, KeyedMap.get?_insert]
    by_cases hid : d.id = id
    · rw [holders_cons_of_eq hid, hid, if_pos rfl]
      cases all.get? id with
      | none => rfl
      | some previous =>
        change List.filter _ [_] ++ _ = (⟨id, previous.provider, d.provider⟩ : Override) :: _
        rw [List.filter_cons_of_pos (by simp)]
        rfl
    · rw [holders_cons_of_ne hid, if_neg hid]
      cases all.get? d.id with
      | none => rfl
      | some previous =>
        change List.filter _ [_] ++ _ = _
        rw [List.filter_cons_of_neg (by simp [hid])]
        rfl

theorem get?_putAll (id : String) (all : DefinitionMap) (given : List Definition) :
    (putAll all given).get? id = ((all.get? id).toList ++ holders id given).getLast? := by
  induction given generalizing all with
  | nil => cases h : all.get? id <;> exact h
  | cons d rest ih =>
    refine (ih (all.insert d.id d)).trans ?_
    rw [KeyedMap.get?_insert]
    by_cases hid : d.id = id
    · rw [holders_cons_of_eq hid, if_pos hid]
      cases all.get? id with
      | none => rfl
      | some previous => exact List.getLast?_cons_cons.symm
    · rw [holders_cons_of_ne hid, if_neg hid]

theorem accountFor_ofEach (given : List Definition) :
    AccountFor (ofEach .empty given) given (putAll .empty given) where
  count := count_ofEach .empty given
  chained id := filter_ofEach id .empty given
  last id := get?_putAll id .empty given

theorem putAll_append (all : DefinitionMap) (given more : List Definition) :
    putAll all (given ++ more) = putAll (putAll all given) more :=
  List.foldl_append

theorem ofEach_append (all : DefinitionMap) (given more : List Definition) :
    ofEach all (given ++ more) = ofEach all given ++ ofEach (putAll all given) more := by
  induction given generalizing all with
  | nil => rfl
  | cons d rest ih =>
    rw [List.cons_append, ofEach, ofEach, ih, List.append_assoc]
    rfl

end Override

end PluginHost
