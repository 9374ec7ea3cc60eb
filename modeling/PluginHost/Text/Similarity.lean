/-!
How alike two words are, by Jaro and Winkler: characters that both words have at nearby places,
less those in another order, and a reward for a common beginning.
-/
namespace PluginHost.Text

/-- Mark the first unmarked `c` at a place from `low` up to below `high`; `i` is the place of the
head. -/
def markFirst (c : Char) (low high : Nat) : Nat → List (Char × Bool) → Option (List (Char × Bool))
  | _, [] => none
  | i, (d, taken) :: rest =>
    if low ≤ i && i < high && d == c && !taken then some ((d, true) :: rest)
    else (markFirst c low high (i + 1) rest).map ((d, taken) :: ·)

/-- The characters of the first word that find a partner, and the second word with the partners
marked. -/
def pairUp (window : Nat) : Nat → List Char → List (Char × Bool) → List Char × List (Char × Bool)
  | _, [], word => ([], word)
  | i, c :: cs, word =>
    match markFirst c (i - window) (i + window + 1) 0 word with
    | some word =>
      let (found, word) := pairUp window (i + 1) cs word
      (c :: found, word)
    | none => pairUp window (i + 1) cs word

def jaro (a b : List Char) : Float :=
  if a.isEmpty && b.isEmpty then 1
  else if a.isEmpty || b.isEmpty then 0
  else
    let window := max a.length b.length / 2 - 1
    let (left, word) := pairUp window 0 a (b.map (·, false))
    let right := (word.filter Prod.snd).map Prod.fst
    let shared := left.length
    let swaps := ((left.zip right).filter fun (x, y) => x != y).length / 2
    if shared = 0 then 0
    else
      let m := shared.toFloat
      (m / a.length.toFloat + m / b.length.toFloat + (shared - swaps).toFloat / m) / 3

/-- Up to four common characters at the start raise a score above 0.7. -/
def jaroWinkler (a b : List Char) : Float :=
  let score := jaro a b
  if 0.7 < score then
    let common := ((a.take 4).zip b).takeWhile fun (x, y) => x == y
    score + 0.1 * common.length.toFloat * (1 - score)
  else score

def suggestionThreshold : Float := 0.75

/-- The word most like `unknown`; of equal scores the first. -/
def suggest (unknown : String) (known : List String) : Option String :=
  let step (best : Float × Option String) (word : String) : Float × Option String :=
    let score := jaroWinkler unknown.toList word.toList
    if best.1 < score then (score, some word) else best
  (known.foldl step (suggestionThreshold, none)).2

end PluginHost.Text
