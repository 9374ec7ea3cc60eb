import PluginHost.Keyed.Lemmas
import PluginHost.Proofs.Text.Reader
import PluginHost.Toml.Document

/-!
No key stands twice in a table of a TOML text. Every change to a table under construction keeps this,
and so does what is written as a value.
-/
namespace PluginHost.Toml

open Text Text.Reader

namespace Item

mutual

def Distinct : Item → Prop
  | .arr items => DistinctItems items
  | .table entries => (entries.map Prod.fst).Nodup ∧ DistinctEntries entries
  | _ => True

def DistinctItems : List Item → Prop
  | [] => True
  | item :: rest => item.Distinct ∧ DistinctItems rest

def DistinctEntries : List (String × Item) → Prop
  | [] => True
  | (_, item) :: rest => item.Distinct ∧ DistinctEntries rest

end

theorem distinctItems_iff {items : List Item} :
    DistinctItems items ↔ ∀ item ∈ items, item.Distinct := by
  induction items with
  | nil => simp [DistinctItems]
  | cons item rest ih => rw [DistinctItems, ih, List.forall_mem_cons]

theorem distinctEntries_iff {entries : List (String × Item)} :
    DistinctEntries entries ↔ ∀ e ∈ entries, e.2.Distinct := by
  induction entries with
  | nil => simp [DistinctEntries]
  | cons e rest ih => rw [DistinctEntries, ih, List.forall_mem_cons]

theorem distinct_arr_iff {items : List Item} :
    (arr items).Distinct ↔ ∀ item ∈ items, item.Distinct := by
  rw [Distinct, distinctItems_iff]

theorem distinct_table_iff {entries : List (String × Item)} :
    (table entries).Distinct ↔
      (entries.map Prod.fst).Nodup ∧ ∀ e ∈ entries, e.2.Distinct := by
  rw [Distinct, distinctEntries_iff]

end Item

namespace Node

theorem toItems_eq_map (items : List Node) : toItems items = items.map toItem := by
  induction items with
  | nil => rfl
  | cons node rest ih => rw [toItems, ih, List.map_cons]

theorem toEntries_eq_map (entries : List (String × Node)) :
    toEntries entries = entries.map fun e => (e.1, e.2.toItem) := by
  induction entries with
  | nil => rfl
  | cons e rest ih => rw [toEntries, ih, List.map_cons]

def Distinct (node : Node) : Prop := node.toItem.Distinct

variable {implied dotted : Bool} {entries : List (String × Node)} {items : List Node}
  {key : String} {node node' : Node}

theorem distinct_table_iff :
    (table implied dotted entries).Distinct ↔
      (entries.map Prod.fst).Nodup ∧ ∀ e ∈ entries, e.2.Distinct := by
  rw [Distinct, toItem, Item.distinct_table_iff, toEntries_eq_map, List.map_map, List.forall_mem_map]
  rfl

theorem distinct_tables_iff : (tables items).Distinct ↔ ∀ item ∈ items, item.Distinct := by
  rw [Distinct, toItem, Item.distinct_arr_iff, toItems_eq_map, List.forall_mem_map]
  rfl

theorem distinct_emptyTable : emptyTable.Distinct := distinct_table_iff.2 ⟨List.nodup_nil, nofun⟩

theorem keys_put (entries : List (String × Node)) :
    (put key node entries).map Prod.fst =
      if key ∈ entries.map Prod.fst then entries.map Prod.fst
      else entries.map Prod.fst ++ [key] := by
  unfold put
  by_cases hkey : key ∈ entries.map Prod.fst
  · have hsome : (Keyed.get? key entries).isSome :=
      Option.isSome_iff_ne_none.2 fun hnone => Keyed.get?_eq_none_iff.1 hnone hkey
    rw [if_pos hsome, if_pos hkey, List.map_map]
    refine List.map_congr_left fun e _ => ?_
    by_cases he : e.1 = key <;> simp [he]
  · rw [Keyed.get?_eq_none_iff.2 hkey, if_neg hkey]
    simp

theorem mem_put {e : String × Node} (h : e ∈ put key node entries) : e ∈ entries ∨ e.2 = node := by
  unfold put at h
  split at h
  · obtain ⟨e', he', rfl⟩ := List.mem_map.1 h
    split
    · exact .inr rfl
    · exact .inl he'
  · rcases List.mem_append.1 h with h | h
    · exact .inl h
    · exact .inr (List.mem_singleton.1 h ▸ rfl)

theorem distinct_put (h : (table implied dotted entries).Distinct) (hnode : node.Distinct)
    {implied' dotted' : Bool} : (table implied' dotted' (put key node entries)).Distinct := by
  obtain ⟨hkeys, hnodes⟩ := distinct_table_iff.1 h
  refine distinct_table_iff.2 ⟨?_, fun e he => ?_⟩
  · rw [keys_put]
    split
    · exact hkeys
    · next hkey =>
      refine List.nodup_append.2 ⟨hkeys, List.nodup_cons.2 ⟨List.not_mem_nil, List.nodup_nil⟩, ?_⟩
      rintro k hk _ hkey' rfl
      exact hkey (List.mem_singleton.1 hkey' ▸ hk)
  · rcases mem_put he with he | rfl
    · exact hnodes e he
    · exact hnode

theorem distinct_of_get? (h : (table implied dotted entries).Distinct)
    (hget : Keyed.get? key entries = some node) : node.Distinct :=
  (distinct_table_iff.1 h).2 _ (Keyed.mem_of_get? hget)

variable {change : Node → Option Node}

theorem distinct_descend {viaDots : Bool} {path : List String}
    (hchange : ∀ n n', n.Distinct → change n = some n' → n'.Distinct) (h : node.Distinct)
    (hdescend : node.descend viaDots change path = some node') : node'.Distinct := by
  induction path generalizing node node' with
  | nil =>
    rw [descend] at hdescend
    exact hchange node node' h hdescend
  | cons key path ih =>
    cases node with
    | leaf | tables => cases hdescend
    | table implied dotted entries =>
      have hheld : ((Keyed.get? key entries).getD (.table true viaDots [])).Distinct := by
        cases hget : Keyed.get? key entries with
        | none => exact distinct_table_iff.2 ⟨List.nodup_nil, nofun⟩
        | some held => exact distinct_of_get? h hget
      rw [descend] at hdescend
      split at hdescend
      · cases hdescend
      · next items hitems =>
        rw [hitems] at hheld
        have hall := distinct_tables_iff.1 hheld
        obtain ⟨last, hlast, hrest⟩ := Option.bind_eq_some_iff.1 hdescend
        obtain ⟨last', hlast', heq⟩ := Option.bind_eq_some_iff.1 hrest
        cases heq
        refine distinct_put h (distinct_tables_iff.2 fun item hitem => ?_)
        rcases List.mem_append.1 hitem with hitem | hitem
        · exact hall item (List.dropLast_subset _ hitem)
        · rw [List.mem_singleton.1 hitem]
          exact ih (hall last (List.mem_of_getLast? hlast)) hlast'
      · next childImplied childDotted held htable =>
        rw [htable] at hheld
        split at hdescend
        · cases hdescend
        · obtain ⟨child, hchild, heq⟩ := Option.bind_eq_some_iff.1 hdescend
          cases heq
          exact distinct_put h (ih hheld hchild)

theorem distinct_define {viaDots : Bool} {item : Item} (hitem : item.Distinct) (h : node.Distinct)
    (hdefine : define viaDots key item node = some node') : node'.Distinct := by
  unfold define at hdefine
  split at hdefine
  · split at hdefine
    · cases hdefine
    · cases hdefine
      have hleaf : (leaf item).Distinct := hitem
      exact distinct_put h hleaf
  · cases hdefine

theorem distinct_assign {keys : List String} {item : Item} (hitem : item.Distinct)
    (h : node.Distinct) (hassign : assign keys item node = some node') : node'.Distinct := by
  obtain ⟨key, -, hdescend⟩ := Option.bind_eq_some_iff.1 hassign
  exact distinct_descend (fun _ _ hn hdefine => distinct_define hitem hn hdefine) h hdescend

theorem distinct_erase (h : (table implied dotted entries).Distinct) :
    (table implied dotted (Keyed.erase key entries)).Distinct := by
  obtain ⟨hkeys, hnodes⟩ := distinct_table_iff.1 h
  have hsub := Keyed.erase_sublist key entries
  exact distinct_table_iff.2 ⟨hkeys.sublist (hsub.map Prod.fst), fun e he => hnodes e (hsub.subset he)⟩

theorem distinct_openTable (h : node.Distinct) (hopen : openTable key node = some node') :
    node'.Distinct := by
  unfold openTable at hopen
  split at hopen
  · split at hopen
    · cases hopen
      exact distinct_put h distinct_emptyTable
    · next held hget =>
      cases hopen
      refine distinct_put (distinct_erase h) ?_
      exact distinct_table_iff.2 (distinct_table_iff.1 (distinct_of_get? h hget))
    · cases hopen
  · cases hopen

theorem distinct_pushTable (h : node.Distinct) (hpush : pushTable key node = some node') :
    node'.Distinct := by
  unfold pushTable at hpush
  split at hpush
  · split at hpush
    · cases hpush
      refine distinct_put h (distinct_tables_iff.2 fun item hitem => ?_)
      exact List.mem_singleton.1 hitem ▸ distinct_emptyTable
    · next items hget =>
      cases hpush
      refine distinct_put h (distinct_tables_iff.2 fun item hitem => ?_)
      rcases List.mem_append.1 hitem with hitem | hitem
      · exact distinct_tables_iff.1 (distinct_of_get? h hget) item hitem
      · exact List.mem_singleton.1 hitem ▸ distinct_emptyTable
    · cases hpush
  · cases hpush

end Node

theorem distinct_inlineTable {pairs : List (List String × Item)} {item : Item}
    (hpairs : ∀ pair ∈ pairs, pair.2.Distinct) (h : inlineTable pairs = some item) :
    item.Distinct := by
  obtain ⟨node, hnode, heq⟩ := Option.bind_eq_some_iff.1 h
  cases heq
  suffices hfold : ∀ (pairs : List (List String × Item)) (start : Node), start.Distinct →
      (∀ pair ∈ pairs, pair.2.Distinct) →
        pairs.foldlM (fun node pair => Node.assign pair.1 pair.2 node) start = some node →
          node.Distinct from hfold pairs _ Node.distinct_emptyTable hpairs hnode
  intro pairs
  induction pairs with
  | nil =>
    rintro start hstart - ⟨⟩
    exact hstart
  | cons pair rest ih =>
    intro start hstart hpairs hfold
    obtain ⟨next, hnext, hrest⟩ := Option.bind_eq_some_iff.1 hfold
    have hpairs := List.forall_mem_cons.1 hpairs
    exact ih next (Node.distinct_assign hpairs.1 hstart hnext) hpairs.2 hrest

theorem yields_scalar : Yields scalar Item.Distinct :=
  yields_orElse (yields_bind fun _ => yields_pure trivial) <|
  yields_orElse (yields_bind fun _ => yields_pure trivial) <|
  yields_orElse (yields_bind fun _ => yields_pure trivial) <|
  yields_orElse (yields_bind fun _ => yields_pure trivial) <|
  yields_orElse (yields_bind fun _ => yields_pure trivial) <|
  yields_bind fun _ => yields_pure trivial

theorem yields_arrayOf {value : Reader Item} (h : Yields value Item.Distinct) :
    Yields (arrayOf value) Item.Distinct := by
  have hitem : Yields (do gap; let v ← value; gap; pure v) Item.Distinct :=
    yields_bind fun _ => h.bind fun v hv => yields_bind fun _ => yields_pure hv
  refine yields_bind fun _ => (yields_maybe (yields_separated1 hitem)).bind fun found hfound => ?_
  have hall : (Item.arr (found.getD [])).Distinct := by
    refine Item.distinct_arr_iff.2 fun item hmem => ?_
    cases found with
    | none => cases hmem
    | some items => exact hfound items rfl item hmem
  have hrest : Yields (do gap; char ']'; pure (.arr (found.getD []))) Item.Distinct :=
    yields_bind fun _ => yields_bind fun _ => yields_pure hall
  split
  · exact yields_bind fun _ => hrest
  · exact hrest

theorem yields_inlineTableOf {value : Reader Item} (h : Yields value Item.Distinct) :
    Yields (inlineTableOf value) Item.Distinct := by
  have hpair : Yields (do let keys ← dottedKey; char '='; blanks; let v ← value; blanks; pure (keys, v))
      fun pair => pair.2.Distinct :=
    yields_bind fun keys => yields_bind fun _ => yields_bind fun _ => h.bind fun v hv =>
      yields_bind fun _ => yields_pure hv
  refine yields_bind fun _ => (yields_maybe (yields_separated1 hpair)).bind fun found hfound =>
    yields_bind fun _ => yields_bind fun _ => yields_lift fun item hitem => ?_
  refine distinct_inlineTable (fun pair hmem => ?_) hitem
  cases found with
  | none => cases hmem
  | some pairs => exact hfound pairs rfl pair hmem

theorem yields_valueTo (depth : Nat) : Yields (valueTo depth) Item.Distinct := by
  induction depth with
  | zero => exact yields_scalar
  | succ depth ih =>
    exact yields_orElse yields_scalar (yields_orElse (yields_arrayOf ih) (yields_inlineTableOf ih))

def Statement.Distinct : Statement → Prop
  | .pair _ item => item.Distinct
  | _ => True

theorem yields_pairStatement : Yields pairStatement Statement.Distinct :=
  yields_bind fun _ => yields_bind fun _ => yields_bind fun _ => (yields_valueTo _).bind fun _ hitem =>
    yields_bind fun _ => yields_pure hitem

theorem yields_headerStatement : Yields headerStatement Statement.Distinct :=
  yields_bind fun _ => yields_bind fun _ => yields_bind fun _ => yields_bind fun _ =>
    yields_pure trivial

theorem yields_arrayHeaderStatement : Yields arrayHeaderStatement Statement.Distinct :=
  yields_bind fun _ => yields_bind fun _ => yields_bind fun _ => yields_bind fun _ =>
    yields_pure trivial

theorem yields_statement : Yields statement Statement.Distinct := by
  have hblank : Yields (do lineEnd; pure .blank) Statement.Distinct :=
    yields_bind fun _ => yields_pure trivial
  refine yields_bind fun _ => yields_bind fun found => ?_
  split
  · exact yields_orElse yields_arrayHeaderStatement yields_headerStatement
  · exact hblank
  · exact hblank
  · exact hblank
  · exact yields_pairStatement

theorem yields_statements (fuel : Nat) :
    Yields (statements fuel) fun found => ∀ s ∈ found, s.Distinct := by
  induction fuel with
  | zero => exact yields_bind fun _ => yields_bind fun _ => yields_pure nofun
  | succ fuel ih =>
    refine yields_bind fun _ => yields_bind fun done => ?_
    split
    · exact yields_pure nofun
    · exact yields_statement.bind fun s hs => ih.bind fun rest hrest =>
        yields_pure (List.forall_mem_cons.2 ⟨hs, hrest⟩)

theorem Draft.distinct_add {d d' : Draft} {s : Statement} (hs : s.Distinct) (h : d.root.Distinct)
    (hadd : d.add s = some d') : d'.root.Distinct := by
  cases s with
  | blank =>
    cases hadd
    exact h
  | pair keys item =>
    obtain ⟨root, hroot, heq⟩ := Option.bind_eq_some_iff.1 hadd
    cases heq
    exact Node.distinct_descend (fun _ _ hn => Node.distinct_assign hs hn) h hroot
  | header path =>
    obtain ⟨key, -, hkey⟩ := Option.bind_eq_some_iff.1 hadd
    obtain ⟨root, hroot, heq⟩ := Option.bind_eq_some_iff.1 hkey
    cases heq
    exact Node.distinct_descend (fun _ _ hn => Node.distinct_openTable hn) h hroot
  | arrayHeader path =>
    obtain ⟨key, -, hkey⟩ := Option.bind_eq_some_iff.1 hadd
    obtain ⟨root, hroot, heq⟩ := Option.bind_eq_some_iff.1 hkey
    cases heq
    exact Node.distinct_descend (fun _ _ hn => Node.distinct_pushTable hn) h hroot

theorem Draft.distinct_foldlM {ss : List Statement} {d d' : Draft} (hss : ∀ s ∈ ss, s.Distinct)
    (h : d.root.Distinct) (hfold : ss.foldlM Draft.add d = some d') : d'.root.Distinct := by
  induction ss generalizing d with
  | nil =>
    cases hfold
    exact h
  | cons s rest ih =>
    obtain ⟨next, hnext, hrest⟩ := Option.bind_eq_some_iff.1 hfold
    obtain ⟨hs, hrests⟩ := List.forall_mem_cons.1 hss
    exact ih hrests (Draft.distinct_add hs h hnext) hrest

/-- No key stands twice in a table of a text. -/
theorem distinct_of_read {content : List Char} {entries : List (String × Item)}
    (h : read content = some entries) : (Item.table entries).Distinct := by
  obtain ⟨found, hfound, hread⟩ := Option.bind_eq_some_iff.1 h
  obtain ⟨draft, hdraft, hroot⟩ := Option.bind_eq_some_iff.1 hread
  have hdistinct : draft.root.toItem.Distinct :=
    Draft.distinct_foldlM ((yields_statements _).of_run hfound) Node.distinct_emptyTable hdraft
  split at hroot
  · next held =>
    cases hroot
    rwa [held] at hdistinct
  · cases hroot

end PluginHost.Toml
