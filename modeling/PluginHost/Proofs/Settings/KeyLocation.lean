import PluginHost.Proofs.Settings.Section

/-!
Where a key is found in a settings text: on the first line that sets it in a section that the path asks
for. Lines are passed one after the other; all that counts of those before is how many headers of the
table were among them, and whether the section that is passed is asked for.
-/
namespace PluginHost.Settings

open Text

/-! Lines that are passed on the way to a key. -/

/-- How many headers have been passed, and whether the section that is passed is asked for. -/
structure Progress where
  headers : Nat
  active : Bool

section Progress

variable (heads : List Char → Bool) (wanted : Nat → Bool) (key : List Char)

def Progress.after (p : Progress) (line : List Char) : Progress :=
  if opensSection line then
    if heads line then ⟨p.headers + 1, wanted p.headers⟩ else ⟨p.headers, false⟩
  else p

def Progress.sets (p : Progress) (line : List Char) : Bool :=
  p.active && !opensSection line && setsKey key (trimStart line)

def indentLength (line : List Char) : Nat := byteLength line - byteLength (trimStart line)

def firstKey : Progress → Nat → List (List Char) → Option Nat
  | _, _, [] => none
  | p, offset, line :: rest =>
    if p.sets key line then some (offset + indentLength line)
    else firstKey (p.after heads wanted line) (offset + byteLength line) rest

end Progress

theorem byteLength_trimStart_le (line : List Char) : byteLength (trimStart line) ≤ byteLength line := by
  obtain ⟨blanks, hline, -⟩ := exists_blanks_before line
  have hlength := congrArg byteLength hline
  rw [byteLength_append] at hlength
  omega

variable {header key : List Char} {wanted : Nat → Bool}

theorem keyInSection_cons (offset : Nat) (line : List Char) (rest : List (List Char)) :
    keyInSection key offset (line :: rest) =
      if opensSection line then none
      else if setsKey key (trimStart line) then some (offset + indentLength line)
      else keyInSection key (offset + byteLength line) rest := by
  have hoffset := Nat.add_sub_assoc (byteLength_trimStart_le line) offset
  unfold indentLength
  rw [← hoffset]
  rfl

/-- Going through the lines once comes to the same as going through each section that is asked for. -/
theorem firstKey_eq (hheader : ∀ line, isHeader header line = true → opensSection line = true)
    (p : Progress) (offset : Nat) (lines : List (List Char)) :
    firstKey (isHeader header) wanted key p offset lines =
      (if p.active then keyInSection key offset lines else none).or
        (((sections header offset lines).zipIdx p.headers).findSome? fun s =>
          if wanted s.2 then keyInSection key s.1.1 s.1.2 else none) := by
  -- The number of headers before the first of the lines numbers the sections that follow.
  induction lines generalizing p offset with
  | nil => simp [firstKey, keyInSection, sections]
  | cons line rest ih =>
    rw [firstKey, ih, keyInSection_cons, sections]
    unfold Progress.after Progress.sets
    by_cases hopens : opensSection line
    · by_cases hheads : isHeader header line
      · simp only [hopens, hheads, if_true, List.zipIdx_cons, List.findSome?_cons]
        cases hfound : if wanted p.headers then keyInSection key (offset + byteLength line) rest
            else none <;> simp
      · simp [hopens, hheads]
    · have hheads : isHeader header line = false := by
        rw [← Bool.not_eq_true]
        exact fun h => hopens (hheader line h)
      by_cases hactive : p.active <;> by_cases hsets : setsKey key (trimStart line) <;>
        simp [hopens, hheads, hactive, hsets]

theorem findSome?_zipIdx_eq {α β : Type} (f : α → Option β) (l : List α) (start n : Nat) :
    ((l.zipIdx start).findSome? fun s => if start + n == s.2 then f s.1 else none) =
      l[n]?.bind f := by
  induction l generalizing start n with
  | nil => rfl
  | cons a l ih =>
    rw [List.zipIdx_cons, List.findSome?_cons]
    cases n with
    | zero =>
      have hlater : ((l.zipIdx (start + 1)).findSome? fun s =>
          if start + 0 == s.2 then f s.1 else none) = none := by
        rw [List.findSome?_eq_none_iff]
        intro s hs
        have hle := List.le_snd_of_mem_zipIdx hs
        rw [if_neg]
        rw [beq_iff_eq]
        omega
      rw [hlater]
      cases h : f a <;> simp [h]
    | succ n =>
      have hstart : start + (n + 1) = start + 1 + n := by omega
      have hne : ¬start + 1 + n = start := by omega
      rw [hstart, ih (start + 1) n]
      simp [hne]

theorem keyOffset?_of_ne_nil {path : List String} (hpath : path ≠ []) (content key : String) :
    let lines := linesKept content.toList
    let name := ".".intercalate (splitIndex path).1
    let found := sections ((tableKind lines name).header name) 0 lines
    keyOffset? content path key =
      match (splitIndex path).2 with
      | some n => found[n]?.bind fun s => keyInSection key.toList s.1 s.2
      | none => found.findSome? fun s => keyInSection key.toList s.1 s.2 := by
  dsimp only
  rw [sections_tableKind]
  unfold keyOffset?
  rw [if_neg (by simpa using hpath)]
  rfl

/-- The sections that a path asks for, by the number of headers before them. -/
def wantedBy (path : List String) (n : Nat) : Bool :=
  !path.isEmpty && (splitIndex path).2.all (· == n)

theorem keyOffset?_eq_firstKey (content : String) (path : List String) (key : String) :
    let lines := linesKept content.toList
    let name := ".".intercalate (splitIndex path).1
    keyOffset? content path key =
      firstKey (isHeader ((tableKind lines name).header name)) (wantedBy path) key.toList
        ⟨0, path.isEmpty⟩ 0 lines := by
  dsimp only
  rw [firstKey_eq fun line h => (TableKind.isHeader_iff.1 h).opensSection]
  by_cases hpath : path = []
  · subst hpath
    have hnone : ∀ l : List ((Nat × List (List Char)) × Nat),
        l.findSome? (fun _ => (none : Option Nat)) = none := fun l =>
      List.findSome?_eq_none_iff.2 fun _ _ => rfl
    simp [keyOffset?, wantedBy, hnone]
  · have hwanted : wantedBy path = fun n => (splitIndex path).2.all (· == n) := by
      funext n
      simp [wantedBy, hpath]
    rw [hwanted, keyOffset?_of_ne_nil hpath]
    dsimp only
    generalize sections _ 0 (linesKept content.toList) = found
    cases (splitIndex path).2 with
    | none =>
      have hfound : found = found.zipIdx.map Prod.fst := (List.zipIdx_map_fst 0 found).symm
      rw [hfound, List.findSome?_map]
      simp [hpath, Function.comp_def]
    | some n =>
      have hfind := findSome?_zipIdx_eq (fun s => keyInSection key.toList s.1 s.2) found 0 n
      simpa [hpath] using hfind.symm

/-! The first line that sets the key. -/

section Progress

variable {heads : List Char → Bool} {lines : List (List Char)} {p : Progress} {offset : Nat}

theorem firstKey_eq_none_iff : firstKey heads wanted key p offset lines = none ↔
    ∀ above line below, lines = above ++ line :: below →
      (above.foldl (Progress.after heads wanted) p).sets key line = false := by
  induction lines generalizing p offset with
  | nil => simp [firstKey]
  | cons first rest ih =>
    rw [firstKey]
    by_cases hsets : p.sets key first
    · simp only [hsets, if_true, reduceCtorEq, false_iff]
      intro h
      simpa [hsets] using h [] first rest rfl
    · rw [if_neg hsets, ih]
      constructor
      · intro h above line below heq
        cases above with
        | nil =>
          obtain ⟨rfl, -⟩ := List.cons.inj heq
          simpa using hsets
        | cons a above =>
          obtain ⟨rfl, hrest⟩ := List.cons.inj heq
          exact h above line below hrest
      · intro h above line below heq
        exact h (first :: above) line below (by rw [heq, List.cons_append])

theorem exists_of_firstKey_eq_some {o : Nat} (h : firstKey heads wanted key p offset lines = some o) :
    ∃ above line below, lines = above ++ line :: below ∧
      (above.foldl (Progress.after heads wanted) p).sets key line = true ∧
      o = offset + byteLength above.flatten + indentLength line ∧
      ∀ above' line' below', lines = above' ++ line' :: below' →
        (above'.foldl (Progress.after heads wanted) p).sets key line' = true →
        above.length ≤ above'.length := by
  induction lines generalizing p offset with
  | nil => cases h
  | cons first rest ih =>
    rw [firstKey] at h
    by_cases hsets : p.sets key first
    · rw [if_pos hsets] at h
      obtain rfl := Option.some.inj h
      exact ⟨[], first, rest, rfl, hsets, rfl, fun _ _ _ _ _ => Nat.zero_le _⟩
    · rw [if_neg hsets] at h
      obtain ⟨above, line, below, rfl, hline, ho, hfirst⟩ := ih h
      refine ⟨first :: above, line, below, rfl, hline, ?_, fun above' line' below' heq hline' => ?_⟩
      · rw [ho, List.flatten_cons, byteLength_append]
        omega
      · cases above' with
        | nil =>
          obtain ⟨rfl, -⟩ := List.cons.inj heq
          exact absurd hline' hsets
        | cons a above' =>
          obtain ⟨rfl, hrest⟩ := List.cons.inj heq
          exact Nat.succ_le_succ (hfirst above' line' below' hrest hline')

/-- A section is asked for if it is so from the start and no line has opened one, or else by the number
of the header that opened the last one. -/
theorem active_foldl_iff (hheads : ∀ line, heads line = true → opensSection line = true)
    (above : List (List Char)) (p : Progress) :
    (above.foldl (Progress.after heads wanted) p).active = true ↔
      (p.active = true ∧ ∀ line ∈ above, opensSection line = false) ∨
      ∃ before line between, above = before ++ line :: between ∧ heads line = true ∧
        (∀ line ∈ between, opensSection line = false) ∧
        wanted (p.headers + before.countP heads) = true := by
  induction above generalizing p with
  | nil => simp
  | cons first above ih =>
    -- The last header is the first line itself, or it is among the others.
    have hsplit : (∃ before line between, first :: above = before ++ line :: between ∧
          heads line = true ∧ (∀ line ∈ between, opensSection line = false) ∧
          wanted (p.headers + before.countP heads) = true) ↔
        (heads first = true ∧ (∀ line ∈ above, opensSection line = false) ∧
          wanted p.headers = true) ∨
        ∃ before line between, above = before ++ line :: between ∧ heads line = true ∧
          (∀ line ∈ between, opensSection line = false) ∧
          wanted (p.headers + (first :: before).countP heads) = true := by
      constructor
      · rintro ⟨before, line, between, heq, h⟩
        cases before with
        | nil =>
          obtain ⟨rfl, rfl⟩ := List.cons.inj heq
          exact .inl h
        | cons b before =>
          obtain ⟨rfl, habove⟩ := List.cons.inj heq
          exact .inr ⟨before, line, between, habove, h⟩
      · rintro (h | ⟨before, line, between, habove, h⟩)
        · exact ⟨[], first, above, rfl, h⟩
        · exact ⟨first :: before, line, between, by rw [habove, List.cons_append], h⟩
    rw [hsplit, List.foldl_cons, ih, List.forall_mem_cons]
    unfold Progress.after
    by_cases hopens : opensSection first
    · by_cases hfirst : heads first
      · have hcount : ∀ before : List (List Char), p.headers + 1 + before.countP heads =
            p.headers + (first :: before).countP heads := by
          intro before
          rw [List.countP_cons_of_pos hfirst]
          omega
        simp [hopens, hfirst, hcount, and_comm]
      · simp [hopens, hfirst, List.countP_cons_of_neg]
    · have hfirst : ¬heads first = true := fun h => hopens (hheads first h)
      simp [hopens, hfirst, List.countP_cons_of_neg]

end Progress

/-! Places of a key. -/

theorem wantedBy_iff {path : List String} (hpath : path ≠ []) (n : Nat) :
    wantedBy path n = true ↔ ∀ m, (splitIndex path).2 = some m → n = m := by
  have hnonempty : path.isEmpty = false := by simpa using hpath
  unfold wantedBy
  rw [hnonempty]
  cases (splitIndex path).2 with
  | none => simp
  | some m =>
    simp only [Bool.not_false, Bool.true_and, Option.all_some, beq_iff_eq, Option.some.injEq,
      forall_eq']
    exact eq_comm

theorem askedAfter_iff {content : String} {path : List String} {above : List (List Char)} :
    let name := ".".intercalate (splitIndex path).1
    let heads := isHeader ((tableKind (linesKept content.toList) name).header name)
    AskedAfter content path above ↔
      (above.foldl (Progress.after heads (wantedBy path)) ⟨0, path.isEmpty⟩).active = true := by
  dsimp only
  rw [active_foldl_iff fun line h => (TableKind.isHeader_iff.1 h).opensSection]
  unfold AskedAfter
  by_cases hpath : path = []
  · subst hpath
    simp [wantedBy]
  · have hcount : ∀ (kind : TableKind) (name : String) (before : List (List Char)),
        before.countP (isHeader (kind.header name)) =
          before.countP fun line => kind.Heads name line := fun kind name before =>
      List.countP_congr fun line _ => by simp [TableKind.isHeader_iff]
    simp only [wantedBy_iff hpath, hcount, TableKind.isHeader_iff, Nat.zero_add]
    constructor
    · rintro (⟨hempty, -⟩ | ⟨keys, index, -, hasks, htable⟩)
      · exact absurd hempty hpath
      · rw [asksFor_iff.1 hasks]
        exact .inr htable
    · rintro (⟨hempty, -⟩ | htable)
      · simp [hpath] at hempty
      · exact .inr ⟨_, _, hpath, asksFor_iff.2 rfl, htable⟩

/-- A place in a text at which a line begins with the key, up to blanks, with a blank or an equals sign
behind it. -/
structure KeyPlace (content key : String) where
  above : String
  indent : String
  after : String
  content_eq : content = above ++ indent ++ key ++ after
  whole : WholeLines above.toList
  blank : ∀ c ∈ indent.toList, isSpace c = true ∧ c ≠ '\n'
  follows : ∃ c rest, after.toList = c :: rest ∧ (c = ' ' ∨ c = '\t' ∨ c = '=')

namespace KeyPlace

variable {content key : String}

def offset (p : KeyPlace content key) : Nat := (p.above ++ p.indent).utf8ByteSize

def LiesIn (p : KeyPlace content key) (path : List String) : Prop :=
  AskedAfter content path (linesKept p.above.toList)

theorem isValid_offset (p : KeyPlace content key) :
    String.Pos.Raw.IsValid content ⟨p.offset⟩ ∧
      String.Pos.Raw.IsValid content ⟨p.offset + key.utf8ByteSize⟩ := by
  refine ⟨String.Pos.Raw.isValid_iff_exists_append.2 ⟨p.above ++ p.indent, key ++ p.after, ?_, rfl⟩,
    String.Pos.Raw.isValid_iff_exists_append.2 ⟨p.above ++ p.indent ++ key, p.after, ?_, ?_⟩⟩
  · rw [← String.append_assoc]
    exact p.content_eq
  · exact p.content_eq
  · unfold offset
    rw [← String.utf8ByteSize_append]
    rfl

end KeyPlace

/-- A key of one line that can begin one: it begins with neither a blank nor a bracket. -/
structure PlainKey (key : String) : Prop where
  start : ∃ c rest, key.toList = c :: rest ∧ isSpace c = false ∧ c ≠ '['
  oneLine : '\n' ∉ key.toList

theorem setsKey_iff {body : List Char} : setsKey key body = true ↔
    ∃ c rest, body = key ++ c :: rest ∧ (c = ' ' ∨ c = '\t' ∨ c = '=') := by
  simp only [← dropPrefix?_eq_some_iff]
  unfold setsKey
  cases dropPrefix? key body with
  | none => simp
  | some after =>
    cases after with
    | nil => simp
    | cons c rest => simp; grind

section Place

variable {content key : String} {above below : List (List Char)} {line : List Char}

theorem exists_keyPlace (hlines : linesKept content.toList = above ++ line :: below)
    (hsets : setsKey key.toList (trimStart line) = true) :
    ∃ p : KeyPlace content key, linesKept p.above.toList = above ∧
      p.offset = byteLength above.flatten + indentLength line := by
  obtain ⟨hwhole, habove, hbelow⟩ := linesKept_flatten_of_append hlines
  obtain ⟨indent, hindent, hblank⟩ := exists_blanks_before line
  obtain ⟨c, rest, hbody, hc⟩ := setsKey_iff.1 hsets
  have hline : line = indent ++ (key.toList ++ c :: rest) := by rw [← hbody, ← hindent]
  have hnewline : '\n' ∉ indent := by
    cases hkey : key.toList ++ c :: rest with
    | nil => simp at hkey
    | cons d ds =>
      rw [hline, hkey] at hbelow
      exact not_mem_of_linesKept_eq_cons hbelow
  have hcontent : content.toList = above.flatten ++ line ++ below.flatten := by
    rw [← flatten_linesKept content.toList, hlines]
    simp
  refine ⟨{ above := String.ofList above.flatten
            indent := String.ofList indent
            after := String.ofList (c :: rest ++ below.flatten)
            content_eq := String.toList_injective ?_
            whole := by simpa using hwhole
            blank := ?_
            follows := ⟨c, rest ++ below.flatten, by simp, hc⟩ }, ?_, ?_⟩
  · rw [hcontent, hline]
    simp
  · intro d hd
    rw [String.toList_ofList] at hd
    exact ⟨hblank d hd, fun heq => hnewline (heq ▸ hd)⟩
  · rw [String.toList_ofList, habove]
  · have hlength := congrArg byteLength hindent
    rw [byteLength_append] at hlength
    unfold KeyPlace.offset indentLength
    rw [← byteLength_toList]
    simp only [String.toList_append, String.toList_ofList, byteLength_append]
    omega

theorem KeyPlace.exists_line (p : KeyPlace content key) (hkey : PlainKey key) :
    ∃ line below, linesKept content.toList = linesKept p.above.toList ++ line :: below ∧
      opensSection line = false ∧ setsKey key.toList (trimStart line) = true ∧
      p.offset = byteLength p.above.toList + indentLength line := by
  obtain ⟨k, ks, hks, hk, hbracket⟩ := hkey.start
  obtain ⟨c, rest, hafter, hc⟩ := p.follows
  have hcontent : content.toList =
      p.above.toList ++ (p.indent.toList ++ (key.toList ++ c :: rest)) := by
    have htext := congrArg String.toList p.content_eq
    simpa [hafter] using htext
  have hcne : c ≠ '\n' := by
    rintro rfl
    simp at hc
  have hindent : '\n' ∉ p.indent.toList := fun hmem => (p.blank _ hmem).2 rfl
  obtain ⟨tail, below, htail⟩ := exists_linesKept_cons hcne rest
  have hstart : trimStart (p.indent.toList ++ (key.toList ++ c :: tail)) = key.toList ++ c :: tail := by
    rw [trimStart_append fun d hd => (p.blank d hd).1, hks, List.cons_append, trimStart_cons hk]
  refine ⟨p.indent.toList ++ (key.toList ++ c :: tail), below, ?_, ?_, ?_, ?_⟩
  · rw [hcontent, linesKept_append p.whole, linesKept_append_of_not_mem hindent
      (linesKept_append_of_not_mem hkey.oneLine htail)]
  · unfold opensSection
    rw [hstart, hks]
    simpa using hbracket
  · rw [hstart]
    exact setsKey_iff.2 ⟨c, tail, rfl, hc⟩
  · unfold KeyPlace.offset indentLength
    rw [hstart, ← byteLength_toList]
    simp only [String.toList_append, byteLength_append]
    omega

theorem offset_le {lines above' below' : List (List Char)} {line' : List Char}
    (h : lines = above ++ line :: below) (h' : lines = above' ++ line' :: below')
    (hle : above.length ≤ above'.length) :
    byteLength above.flatten + indentLength line ≤ byteLength above'.flatten + indentLength line' := by
  obtain ⟨between, rfl⟩ := List.prefix_of_prefix_length_le ⟨_, h.symm⟩ ⟨_, h'.symm⟩ hle
  rw [h, List.append_assoc] at h'
  have hrest := List.append_cancel_left h'
  cases between with
  | nil =>
    obtain ⟨rfl, -⟩ := List.cons.inj hrest
    simp
  | cons first between =>
    obtain ⟨rfl, -⟩ := List.cons.inj hrest
    have hindent : indentLength line ≤ byteLength line := Nat.sub_le _ _
    simp only [List.flatten_append, List.flatten_cons, byteLength_append]
    omega

theorem exists_of_keyOffset?_eq_some {path : List String} {o : Nat}
    (h : keyOffset? content path key = some o) :
    ∃ above line below, linesKept content.toList = above ++ line :: below ∧
      AskedAfter content path above ∧ setsKey key.toList (trimStart line) = true ∧
      o = byteLength above.flatten + indentLength line ∧
      ∀ above' line' below', linesKept content.toList = above' ++ line' :: below' →
        AskedAfter content path above' → opensSection line' = false →
        setsKey key.toList (trimStart line') = true → above.length ≤ above'.length := by
  rw [keyOffset?_eq_firstKey] at h
  obtain ⟨above, line, below, hlines, hsets, ho, hfirst⟩ := exists_of_firstKey_eq_some h
  unfold Progress.sets at hsets hfirst
  simp only [Bool.and_eq_true, Bool.not_eq_true', ← askedAfter_iff] at hsets hfirst
  obtain ⟨⟨hasked, -⟩, hkey⟩ := hsets
  refine ⟨above, line, below, hlines, hasked, hkey, by omega, ?_⟩
  intro above' line' below' hlines' hasked' hopens' hkey'
  exact hfirst above' line' below' hlines' ⟨⟨hasked', hopens'⟩, hkey'⟩

theorem not_sets_of_keyOffset?_eq_none {path : List String} (h : keyOffset? content path key = none)
    (hlines : linesKept content.toList = above ++ line :: below)
    (hasked : AskedAfter content path above) (hopens : opensSection line = false) :
    setsKey key.toList (trimStart line) = false := by
  rw [keyOffset?_eq_firstKey, firstKey_eq_none_iff] at h
  have hsets := h above line below hlines
  unfold Progress.sets at hsets
  rw [askedAfter_iff.1 hasked, hopens] at hsets
  exact hsets

end Place

/-- An offset that is given is that of a place of the key in a section that the path asks for. A plain
key that has such places is found at the first of them, and a key that is not found has none. -/
theorem keyOffset?_first_place (content : String) (path : List String) (key : String) :
    (∀ o, keyOffset? content path key = some o →
      ∃ p : KeyPlace content key, p.LiesIn path ∧ p.offset = o ∧
        String.Pos.Raw.IsValid content ⟨o⟩ ∧
        String.Pos.Raw.IsValid content ⟨o + key.utf8ByteSize⟩) ∧
    (PlainKey key →
      (∀ o, keyOffset? content path key = some o ↔
        ∃ p : KeyPlace content key, p.LiesIn path ∧ p.offset = o ∧
          ∀ q : KeyPlace content key, q.LiesIn path → o ≤ q.offset) ∧
      (keyOffset? content path key = none ↔ ∀ p : KeyPlace content key, ¬p.LiesIn path)) := by
  have hplace : ∀ o, keyOffset? content path key = some o →
      ∃ p : KeyPlace content key, p.LiesIn path ∧ p.offset = o := by
    intro o ho
    obtain ⟨above, line, below, hlines, hasked, hsets, rfl, -⟩ := exists_of_keyOffset?_eq_some ho
    obtain ⟨p, habove, hoffset⟩ := exists_keyPlace hlines hsets
    exact ⟨p, by rwa [KeyPlace.LiesIn, habove], hoffset⟩
  refine ⟨fun o ho => ?_, fun hkey => ?_⟩
  · obtain ⟨p, hp, rfl⟩ := hplace o ho
    exact ⟨p, hp, rfl, p.isValid_offset⟩
  · have hleast : ∀ o, keyOffset? content path key = some o →
        ∀ q : KeyPlace content key, q.LiesIn path → o ≤ q.offset := by
      intro o ho q hq
      obtain ⟨above, line, below, hlines, -, -, rfl, hfirst⟩ := exists_of_keyOffset?_eq_some ho
      obtain ⟨line', below', hlines', hopens', hsets', hoffset'⟩ := q.exists_line hkey
      have hle := offset_le hlines hlines' (hfirst _ _ _ hlines' hq hopens' hsets')
      rw [flatten_linesKept] at hle
      rwa [hoffset']
    have hnone : keyOffset? content path key = none ↔ ∀ p : KeyPlace content key, ¬p.LiesIn path := by
      constructor
      · intro h p hp
        obtain ⟨line, below, hlines, hopens, hsets, -⟩ := p.exists_line hkey
        rw [not_sets_of_keyOffset?_eq_none h hlines hp hopens] at hsets
        cases hsets
      · intro h
        cases ho : keyOffset? content path key with
        | none => rfl
        | some o =>
          obtain ⟨p, hp, -⟩ := hplace o ho
          exact absurd hp (h p)
    refine ⟨fun o => ⟨fun ho => ?_, ?_⟩, hnone⟩
    · obtain ⟨p, hp, hoffset⟩ := hplace o ho
      exact ⟨p, hp, hoffset, hleast o ho⟩
    · rintro ⟨p, hp, rfl, hfirst⟩
      cases ho : keyOffset? content path key with
      | none => exact absurd hp (hnone.1 ho p)
      | some o =>
        obtain ⟨q, hq, rfl⟩ := hplace o ho
        rw [Nat.le_antisymm (hleast _ ho p hp) (hfirst q hq)]

def sampleText : String :=
  "[[discovery.directories]]\npaths = [\"é\"]\n\n  [[discovery.directories]] # later\r\n\tpath = \"ü\"\n"

/-- The key stands in the second of two tables, behind a tab. -/
theorem sampleText_path_found :
    PlainKey "path" ∧
      keyOffset? sampleText ["discovery", "directories", "1"] "path" = some 80 ∧
      String.Pos.Raw.IsValid sampleText ⟨80 + "path".utf8ByteSize⟩ ∧
      ∃ p : KeyPlace sampleText "path", p.LiesIn ["discovery", "directories", "1"] ∧ p.offset = 80 ∧
        ∀ q : KeyPlace sampleText "path", q.LiesIn ["discovery", "directories", "1"] →
          80 ≤ q.offset := by
  have hplain : PlainKey "path" := ⟨⟨'p', _, rfl, by decide, by decide⟩, by decide⟩
  have hfound : keyOffset? sampleText ["discovery", "directories", "1"] "path" = some 80 := by
    decide +kernel
  obtain ⟨hsound, hfirst⟩ :=
    keyOffset?_first_place sampleText ["discovery", "directories", "1"] "path"
  obtain ⟨-, -, -, -, hvalid⟩ := hsound 80 hfound
  exact ⟨hplain, hfound, hvalid, ((hfirst hplain).1 80).1 hfound⟩

end PluginHost.Settings
