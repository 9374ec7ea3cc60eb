import PluginHost.Yaml.Document

/-!
What the first token of a document says about its root. Tokens are only added behind it, or put in
front of it to make a mapping's first key of what it starts; so a document that starts with a plain
scalar is this scalar or a mapping.
-/
namespace PluginHost.Yaml

/-- The tokens that can come first where a plain scalar of this text was met first: the scalar, or
what was put in front of it. -/
inductive Heads (text : List Char) : Token → Prop
  | scalar : Heads text (.scalar text true)
  | key : Heads text .key
  | mapping : Heads text .blockMappingStart

/-- The marks of some documents, and then what a plain scalar of this text makes the first. -/
def OpensWith (marks : Nat) (text : List Char) (tokens : List Token) : Prop :=
  ∃ head rest, tokens = List.replicate marks .documentStart ++ head :: rest ∧ Heads text head

variable {marks : Nat} {text : List Char}

theorem OpensWith.append {tokens : List Token} (h : OpensWith marks text tokens)
    (more : List Token) : OpensWith marks text (tokens ++ more) := by
  obtain ⟨head, rest, rfl, hhead⟩ := h
  exact ⟨head, rest ++ more, by simp, hhead⟩

theorem OpensWith.insertIdx {tokens : List Token} (h : OpensWith marks text tokens) {token : Token}
    (htoken : Heads text token) {position : Nat} (hposition : marks ≤ position) :
    OpensWith marks text (tokens.insertIdx position token) := by
  obtain ⟨head, rest, rfl, hhead⟩ := h
  obtain ⟨n, rfl⟩ := Nat.exists_eq_add_of_le hposition
  have hinsert : (List.replicate marks Token.documentStart ++ head :: rest).insertIdx (marks + n) token
      = List.replicate marks .documentStart ++ (head :: rest).insertIdx n token := by
    clear hposition
    induction marks with
    | zero => simp
    | succ marks ih =>
      rw [Nat.add_right_comm, List.replicate_succ, List.cons_append, List.insertIdx_succ_cons, ih,
        List.cons_append]
  rw [hinsert]
  cases n with
  | zero => exact ⟨token, head :: rest, rfl, htoken⟩
  | succ n => exact ⟨head, rest.insertIdx n token, rfl, hhead⟩

namespace TokenStream

/-- The first token of the root is there, and no key can begin before it. -/
structure Opened (marks : Nat) (text : List Char) (s : TokenStream) : Prop where
  tokens : OpensWith marks text s.tokens.toList
  keys : ∀ mark, some mark ∈ s.keys → marks ≤ mark.position

variable {s t : TokenStream} {token : Token}

theorem Opened.size (h : s.Opened marks text) : marks ≤ s.tokens.size := by
  obtain ⟨head, rest, htokens, -⟩ := h.tokens
  have hlength := congrArg List.length htokens
  simp at hlength
  omega

theorem Opened.push (h : s.Opened marks text) (token : Token) : (s.push token).Opened marks text where
  tokens := by
    unfold TokenStream.push
    rw [Array.toList_push]
    exact h.tokens.append [token]
  keys := h.keys

theorem Opened.insert (h : s.Opened marks text) (htoken : Heads text token) {position : Nat}
    (hposition : marks ≤ position) :
    ({ s with tokens := s.tokens.insertIdxIfInBounds position token } : TokenStream).Opened marks
      text where
  tokens := by
    unfold Array.insertIdxIfInBounds
    split
    · rw [Array.toList_insertIdx]
      exact h.tokens.insertIdx htoken hposition
    · exact h.tokens
  keys := h.keys

theorem Opened.withKeys (h : s.Opened marks text) {keys : List (Option KeyMark)}
    (hkeys : ∀ mark, some mark ∈ keys → some mark ∈ s.keys) :
    ({ s with keys } : TokenStream).Opened marks text where
  tokens := h.tokens
  keys mark hmark := h.keys mark (hkeys mark hmark)

theorem Opened.dropExpired (h : s.Opened marks text) (hs : s.dropExpired = some t) :
    t.Opened marks text := by
  unfold TokenStream.dropExpired at hs
  dsimp only at hs
  split at hs
  · cases hs
  · cases hs
    refine h.withKeys fun mark hmark => ?_
    obtain ⟨key, hkey, heq⟩ := List.mem_map.1 hmark
    split at heq
    · cases heq
    · exact heq ▸ hkey

theorem Opened.forgetKey (h : s.Opened marks text) (hs : s.forgetKey = some t) :
    t.Opened marks text := by
  unfold TokenStream.forgetKey at hs
  split at hs
  · next k rest hkeys =>
    split at hs
    · cases hs
    · cases hs
      refine h.withKeys fun mark hmark => ?_
      rw [hkeys]
      exact List.mem_cons_of_mem _ (by simpa using hmark)
  · cases hs
    exact h

theorem Opened.markKey (h : s.Opened marks text) (hs : s.markKey = some t) :
    t.Opened marks text := by
  unfold TokenStream.markKey at hs
  split at hs
  · cases hs
    exact h
  · obtain ⟨u, hu, heq⟩ := Option.bind_eq_some_iff.1 hs
    cases heq
    have hforgot := h.forgetKey hu
    refine ⟨hforgot.tokens, fun mark hmark => ?_⟩
    rcases List.mem_cons.1 hmark with heq | hmark
    · cases heq
      exact hforgot.size
    · exact hforgot.keys mark (List.mem_of_mem_tail hmark)

theorem Opened.closeBlocks (h : s.Opened marks text) (column : Int) :
    (s.closeBlocks column).Opened marks text := by
  unfold TokenStream.closeBlocks
  split
  · exact h
  · refine ⟨?_, h.keys⟩
    rw [Array.toList_append]
    exact h.tokens.append _

theorem Opened.endBlocks (h : s.Opened marks text) (hs : s.endBlocks = some t) :
    t.Opened marks text := by
  obtain ⟨u, hu, heq⟩ := Option.bind_eq_some_iff.1 hs
  cases heq
  have hforgot := (h.closeBlocks (-1)).forgetKey hu
  exact ⟨hforgot.tokens, hforgot.keys⟩

/-- A block collection that starts at the end of the tokens does not touch the first one. -/
theorem Opened.enterBlock (h : s.Opened marks text) (hs : s.enterBlock token = some t) :
    t.Opened marks text := by
  unfold TokenStream.enterBlock at hs
  split at hs
  · cases hs
    exact h
  · split at hs
    · cases hs
      unfold openBlock
      split
      · exact h
      · refine ⟨?_, h.keys⟩
        rw [Array.insertIdxIfInBounds, dif_pos (Nat.le_refl _), Array.toList_insertIdx,
          ← Array.length_toList, List.insertIdx_length_self]
        exact h.tokens.append [token]
    · cases hs

theorem Opened.take (h : s.Opened marks text) (n : Nat) (token : Token) :
    (s.take n token).Opened marks text :=
  ⟨(h.push token).tokens, h.keys⟩

/-! The scanning of each kind of token. -/

theorem Opened.scanDirective (h : s.Opened marks text) (hs : s.scanDirective = some t) :
    t.Opened marks text := by
  obtain ⟨u, hu, hs⟩ := Option.bind_eq_some_iff.1 hs
  obtain ⟨⟨token, c⟩, -, heq⟩ := Option.bind_eq_some_iff.1 hs
  cases heq
  exact ⟨((h.endBlocks hu).push token).tokens, (h.endBlocks hu).keys⟩

theorem Opened.openFlow (h : s.Opened marks text) (hs : s.openFlow token = some t) :
    t.Opened marks text := by
  obtain ⟨u, hu, heq⟩ := Option.bind_eq_some_iff.1 hs
  cases heq
  have hmarked := h.markKey hu
  refine ⟨(hmarked.push token).tokens, fun mark hmark => hmarked.keys mark ?_⟩
  exact (List.mem_cons.1 hmark).resolve_left (Option.some_ne_none mark)

theorem Opened.closeFlow (h : s.Opened marks text) (hs : s.closeFlow token = some t) :
    t.Opened marks text := by
  obtain ⟨u, hu, heq⟩ := Option.bind_eq_some_iff.1 hs
  have hforgot := h.forgetKey hu
  cases heq
  split
  · exact ⟨(hforgot.push token).tokens, fun mark hmark =>
      hforgot.keys mark (List.mem_of_mem_tail hmark)⟩
  · exact ⟨(hforgot.push token).tokens, hforgot.keys⟩

theorem Opened.scanFlowEntry (h : s.Opened marks text) (hs : s.scanFlowEntry = some t) :
    t.Opened marks text := by
  obtain ⟨u, hu, heq⟩ := Option.bind_eq_some_iff.1 hs
  cases heq
  exact ⟨((h.forgetKey hu).push _).tokens, (h.forgetKey hu).keys⟩

theorem Opened.scanBlockEntry (h : s.Opened marks text) (hs : s.scanBlockEntry = some t) :
    t.Opened marks text := by
  obtain ⟨u, hu, hs⟩ := Option.bind_eq_some_iff.1 hs
  obtain ⟨v, hv, heq⟩ := Option.bind_eq_some_iff.1 hs
  cases heq
  have hforgot := (h.enterBlock hu).forgetKey hv
  exact ⟨(hforgot.push _).tokens, hforgot.keys⟩

theorem Opened.scanKey (h : s.Opened marks text) (hs : s.scanKey = some t) :
    t.Opened marks text := by
  obtain ⟨u, hu, hs⟩ := Option.bind_eq_some_iff.1 hs
  obtain ⟨v, hv, heq⟩ := Option.bind_eq_some_iff.1 hs
  cases heq
  have hforgot := (h.enterBlock hu).forgetKey hv
  exact ⟨(hforgot.push _).tokens, hforgot.keys⟩

/-- Here the tokens of a key are put in front of what was scanned before. -/
theorem Opened.scanValue (h : s.Opened marks text) (hs : s.scanValue = some t) :
    t.Opened marks text := by
  unfold TokenStream.scanValue at hs
  split at hs
  · next k rest hkeys =>
    have hposition : marks ≤ k.position := h.keys k (hkeys ▸ List.mem_cons_self)
    have hkeyed := h.insert .key hposition
    have hopened : (openBlock { s with tokens := s.tokens.insertIdxIfInBounds k.position .key }
        k.column k.position .blockMappingStart).Opened marks text := by
      unfold openBlock
      split
      · exact hkeyed
      · exact ⟨(hkeyed.insert .mapping hposition).tokens, h.keys⟩
    cases hs
    refine ⟨(hopened.push _).tokens, fun mark hmark => h.keys mark ?_⟩
    rw [hkeys]
    exact List.mem_cons_of_mem _ ((List.mem_cons.1 hmark).resolve_left (Option.some_ne_none mark))
  · obtain ⟨u, hu, heq⟩ := Option.bind_eq_some_iff.1 hs
    cases heq
    exact ⟨((h.enterBlock hu).push _).tokens, (h.enterBlock hu).keys⟩

theorem Opened.scanName (h : s.Opened marks text) {make : List Char → Token}
    (hs : s.scanName make = some t) : t.Opened marks text := by
  obtain ⟨u, hu, hs⟩ := Option.bind_eq_some_iff.1 hs
  obtain ⟨⟨name, c⟩, -, heq⟩ := Option.bind_eq_some_iff.1 hs
  cases heq
  exact ⟨((h.markKey hu).push _).tokens, (h.markKey hu).keys⟩

theorem Opened.scanTag (h : s.Opened marks text) (hs : s.scanTag = some t) :
    t.Opened marks text := by
  obtain ⟨u, hu, hs⟩ := Option.bind_eq_some_iff.1 hs
  obtain ⟨⟨token, c⟩, -, heq⟩ := Option.bind_eq_some_iff.1 hs
  cases heq
  exact ⟨((h.markKey hu).push _).tokens, (h.markKey hu).keys⟩

theorem Opened.scanBlockScalar (h : s.Opened marks text) {literal : Bool}
    (hs : s.scanBlockScalar literal = some t) : t.Opened marks text := by
  obtain ⟨u, hu, hs⟩ := Option.bind_eq_some_iff.1 hs
  obtain ⟨⟨_, c⟩, -, heq⟩ := Option.bind_eq_some_iff.1 hs
  cases heq
  exact ⟨((h.forgetKey hu).push _).tokens, (h.forgetKey hu).keys⟩

theorem Opened.scanQuoted (h : s.Opened marks text) {quote : Char}
    (hs : s.scanQuoted quote = some t) : t.Opened marks text := by
  obtain ⟨u, hu, hs⟩ := Option.bind_eq_some_iff.1 hs
  obtain ⟨⟨_, c⟩, -, heq⟩ := Option.bind_eq_some_iff.1 hs
  cases heq
  exact ⟨((h.markKey hu).push _).tokens, (h.markKey hu).keys⟩

theorem Opened.scanPlain (h : s.Opened marks text) (hs : s.scanPlain = some t) :
    t.Opened marks text := by
  obtain ⟨u, hu, hs⟩ := Option.bind_eq_some_iff.1 hs
  obtain ⟨⟨_, _, c⟩, -, heq⟩ := Option.bind_eq_some_iff.1 hs
  cases heq
  exact ⟨((h.markKey hu).push _).tokens, (h.markKey hu).keys⟩

theorem Opened.scanAt (h : s.Opened marks text) {ch : Char} {rest : List Char}
    (hs : s.scanAt ch rest = some t) : t.Opened marks text := by
  unfold TokenStream.scanAt at hs
  dsimp only at hs
  split at hs
  · exact h.scanDirective hs
  · split at hs
    · obtain ⟨u, hu, rfl⟩ := Option.map_eq_some_iff.1 hs
      exact (h.endBlocks hu).take 3 _
    · split at hs
      · exact h.openFlow hs
      · exact h.closeFlow hs
      · exact h.openFlow hs
      · exact h.closeFlow hs
      · exact h.scanFlowEntry hs
      · exact h.scanName hs
      · exact h.scanName hs
      · exact h.scanTag hs
      · exact h.scanQuoted hs
      · exact h.scanQuoted hs
      · split at hs
        · exact h.scanBlockEntry hs
        · split at hs
          · exact h.scanKey hs
          · split at hs
            · exact h.scanValue hs
            · split at hs
              · exact h.scanBlockScalar hs
              · split at hs
                · exact h.scanPlain hs
                · cases hs

theorem Opened.skipGap (h : s.Opened marks text) (bound : List Char) :
    (skipGap bound s).Opened marks text := by
  induction bound generalizing s with
  | nil => exact h
  | cons _ bound ih =>
    unfold TokenStream.skipGap
    dsimp only
    split
    · exact ih ⟨h.tokens, h.keys⟩
    · exact ⟨h.tokens, h.keys⟩

theorem Opened.scan {fuel : Nat} (h : s.Opened marks text) {tokens : List Token}
    (hs : scan fuel s = some tokens) : OpensWith marks text tokens := by
  induction fuel generalizing s with
  | zero => cases hs
  | succ fuel ih =>
    obtain ⟨u, hu, hs⟩ := Option.bind_eq_some_iff.1 hs
    have hgap := (h.skipGap _).dropExpired hu
    split at hs
    · obtain ⟨v, hv, heq⟩ := Option.bind_eq_some_iff.1 hs
      cases heq
      exact ((hgap.endBlocks hv).push _).tokens
    · obtain ⟨v, hv, hs⟩ := Option.bind_eq_some_iff.1 hs
      exact ih ((hgap.closeBlocks _).scanAt hv) hs

end TokenStream

/-! How a document is read that starts with such a token. -/

namespace NodeReader

variable {head token : Token} {rest : List Token} {anchors : List (List Char × Nat)}
  {shorthands : Shorthands} {fuel : Nat}

@[simp] theorem run_failure {α : Type} (s : NodeSource) : (failure : NodeReader α).run s = none := rfl

theorem run_accept_self :
    (accept token).run ⟨token :: rest, anchors⟩ = some (true, ⟨rest, anchors⟩) := by
  simp [accept, nextIs, skip, StateT.run_bind]

theorem run_accept_other (h : head ≠ token) :
    (accept token).run ⟨head :: rest, anchors⟩ = some (false, ⟨head :: rest, anchors⟩) := by
  simp [accept, nextIs, StateT.run_bind, h]

theorem run_nextIn (ends : List Token) : (nextIn ends).run ⟨head :: rest, anchors⟩ =
    some (ends.contains head, ⟨head :: rest, anchors⟩) := by
  simp [nextIn, peek, StateT.run_bind]

theorem run_expect_other (h : head ≠ token) :
    (expect token).run ⟨head :: rest, anchors⟩ = none := by
  simp [expect, StateT.run_bind, run_accept_other h]

theorem run_dropEnds_other (h : head ≠ .documentEnd) :
    (document.dropEnds fuel).run ⟨head :: rest, anchors⟩ = some ((), ⟨head :: rest, anchors⟩) := by
  cases fuel with
  | zero => rfl
  | succ fuel => simp [document.dropEnds, StateT.run_bind, run_accept_other h]

theorem run_node_scalar :
    (node shorthands (fuel + 1) .block).run ⟨.scalar text true :: rest, anchors⟩ =
      some (.scalar {} text true, ⟨rest, anchors⟩) := by
  rw [node]
  rfl

theorem run_node_key : (node shorthands (fuel + 1) .block).run ⟨.key :: rest, anchors⟩ = none := by
  rw [node]
  rfl

theorem run_node_mapping :
    (node shorthands (fuel + 1) .block).run ⟨.blockMappingStart :: rest, anchors⟩ =
      ((blockEntries (node shorthands fuel) fuel).run ⟨rest, anchors⟩).map
        fun r => (.mapping {} r.1, r.2) := by
  rw [node, Option.map_eq_bind]
  rfl

theorem scalar_or_mapping_of_run_node (hhead : Heads text head) {root : Node} {left : NodeSource}
    (h : (node shorthands (fuel + 1) .block).run ⟨head :: rest, anchors⟩ = some (root, left)) :
    root = .scalar {} text true ∨ ∃ entries, root = .mapping {} entries := by
  cases hhead with
  | scalar =>
    rw [run_node_scalar] at h
    cases h
    exact .inl rfl
  | key =>
    rw [run_node_key] at h
    cases h
  | mapping =>
    rw [run_node_mapping] at h
    obtain ⟨⟨entries, _⟩, -, heq⟩ := Option.map_eq_some_iff.1 h
    cases heq
    exact .inr ⟨entries, rfl⟩

/-- After the root only marks of the document's end may follow. -/
def close (fuel : Nat) (root : Node) : NodeReader (Option Node) := do
  document.dropEnds fuel
  expect .streamEnd
  pure (some root)

theorem eq_of_run_close {root : Node} {found : Option Node} {s left : NodeSource}
    (h : (close fuel root).run s = some (found, left)) : found = some root := by
  unfold close at h
  rw [StateT.run_bind] at h
  obtain ⟨_, -, h⟩ := Option.bind_eq_some_iff.1 h
  rw [StateT.run_bind] at h
  obtain ⟨_, -, h⟩ := Option.bind_eq_some_iff.1 h
  cases h
  rfl

theorem run_directives_other (hversion : ∀ major minor, head ≠ .version major minor)
    (hshorthand : ∀ handle expansion, head ≠ .tagShorthand handle expansion) :
    (directives (fuel + 1) false []).run ⟨head :: rest, anchors⟩ =
      some ([], ⟨head :: rest, anchors⟩) := by
  cases head with
  | version major minor => exact absurd rfl (hversion major minor)
  | tagShorthand handle expansion => exact absurd rfl (hshorthand handle expansion)
  | _ =>
    rw [directives]
    rfl

theorem run_document_of_heads (hhead : Heads text head) (hmarks : marks ≤ 1) :
    (document (fuel + 1)).run { tokens := List.replicate marks .documentStart ++ head :: rest } =
      ((node defaultShorthands (fuel + 1) .block).run { tokens := head :: rest }).bind fun r =>
        (close (fuel + 1) r.1).run r.2 := by
  have hend : head ≠ .streamEnd := by rintro rfl; cases hhead
  have hstart : head ≠ .documentStart := by rintro rfl; cases hhead
  have hdocumentEnd : head ≠ .documentEnd := by rintro rfl; cases hhead
  have hdirectives : (directives (fuel + 1) false []).run { tokens := head :: rest } =
      some ([], { tokens := head :: rest }) := by
    apply run_directives_other <;> (rintro _ _ rfl; cases hhead)
  match marks with
  | 0 =>
    simp [document, close, StateT.run_bind, run_accept_other hend, run_accept_other hstart,
      hdirectives]
    rfl
  | 1 =>
    simp [document, close, StateT.run_bind, run_accept_self, run_accept_other, run_directives_other,
      hend, hstart, hdocumentEnd, run_nextIn]

theorem run_document_of_marks :
    (document (fuel + 1)).run { tokens := .documentStart :: .documentStart :: rest } = none := by
  simp [document, StateT.run_bind, run_accept_self, run_accept_other, run_directives_other,
    run_nextIn, run_dropEnds_other, run_expect_other]

theorem run_document_void :
    (document (fuel + 1)).run { tokens := [.streamEnd] } = some (none, { tokens := [] }) := by
  simp [document, StateT.run_bind, run_accept_self]

theorem run_document_mark : (document (fuel + 1)).run { tokens := [.documentStart, .streamEnd] } =
    some (some (.scalar {} [] true), { tokens := [] }) := by
  simp [document, StateT.run_bind, run_accept_self, run_accept_other, run_directives_other,
    run_nextIn, run_dropEnds_other, expect, emptyNode]

end NodeReader

theorem Node.scalar_or_mapping_of_opensWith {tokens : List Token} (h : OpensWith marks text tokens)
    {root : Option Node} (hroot : ofTokens? tokens = some root) :
    root = some (.scalar {} text true) ∨ ∃ entries, root = some (.mapping {} entries) := by
  obtain ⟨⟨found, left⟩, hrun, rfl⟩ := Option.map_eq_some_iff.1 hroot
  obtain ⟨head, rest, rfl, hhead⟩ := h
  match marks with
  | marks + 2 =>
    cases hrun.symm.trans NodeReader.run_document_of_marks
  | 0 | 1 =>
    have hdocument := hrun.symm.trans (NodeReader.run_document_of_heads hhead (by omega))
    obtain ⟨⟨root, after⟩, hnode, hclose⟩ := Option.bind_eq_some_iff.1 hdocument.symm
    cases NodeReader.eq_of_run_close hclose
    simpa using NodeReader.scalar_or_mapping_of_run_node hhead hnode

theorem Node.none_or_empty_of_marks {root : Option Node}
    (hroot : ofTokens? (List.replicate marks .documentStart ++ [.streamEnd]) = some root) :
    root = none ∨ root = some (.scalar {} [] true) := by
  obtain ⟨⟨found, left⟩, hrun, rfl⟩ := Option.map_eq_some_iff.1 hroot
  match marks with
  | 0 =>
    cases hrun.symm.trans NodeReader.run_document_void
    exact .inl rfl
  | 1 =>
    cases hrun.symm.trans NodeReader.run_document_mark
    exact .inr rfl
  | marks + 2 => cases hrun.symm.trans NodeReader.run_document_of_marks

/-! The values of the roots that there can be. -/

namespace Node

variable {table : AnchorTable} {depth : Nat}

theorem valueTo_scalar (text : List Char) :
    valueTo table (depth + 1) (.scalar {} text true) = StateT.lift (plainValue text) := by
  delta valueTo
  rfl

theorem valueTo_mapping (entries : List (Node × Node)) :
    valueTo table (depth + 1) (.mapping {} entries) = (do
      let fields ← entries.mapM fun (key, value) => do
        let key ← keyText table key
        pure (key, ← valueTo table depth value)
      pure (.obj (Keyed.ofList fields))) := by
  delta valueTo
  rfl

theorem toValue?_scalar (text : List Char) : (scalar {} text true).toValue? = plainValue text := by
  change (valueTo _ (127 + 1) _).run' _ = _
  rw [valueTo_scalar]
  cases plainValue text <;> rfl

theorem toValue?_mapping_ne_null (entries : List (Node × Node)) :
    (mapping {} entries).toValue? ≠ some .null := by
  change (valueTo _ (127 + 1) _).run' _ ≠ _
  rw [valueTo_mapping]
  simp

end Node

end PluginHost.Yaml
