/-!
# Similar words

How much two words have in common, from 0 for nothing to 1 for the same word: the characters that
both have at about the same place, less half of those that stand in another order. Words that are
similar enough are offered in place of a mistaken one.
-/

namespace CodeSurvey.CommandLine

def tick (c : Char) : Nat → List (Char × Bool) → Option (List (Char × Bool))
  | _, [] => none
  | 0, _ => none
  | n + 1, (d, taken) :: rest =>
    if c = d && !taken then some ((d, true) :: rest)
    else (tick c n rest).map ((d, taken) :: ·)

def tickWithin (c : Char) (low high : Nat) (word : List (Char × Bool)) :
    Option (List (Char × Bool)) :=
  (tick c (high - low) (word.drop low)).map (word.take low ++ ·)

/-- The characters of a word, from a place on, that are found in another one, in the order of the
first word and of the other. -/
def common (range : Nat) : Nat → List Char → List (Char × Bool) → List Char × List Char
  | _, [], word => ([], (word.filter Prod.snd).map Prod.fst)
  | i, c :: rest, word =>
    match tickWithin c (i - range) (i + range + 1) word with
    | some word =>
      let (here, there) := common range (i + 1) rest word
      (c :: here, there)
    | none => common range (i + 1) rest word

def similarity (a b : String) : Float :=
  let a := a.toList
  let b := b.toList
  if a.isEmpty && b.isEmpty then 1
  else if a.isEmpty || b.isEmpty then 0
  else
    let range := max a.length b.length / 2 - 1
    let (here, there) := common range 0 a (b.map fun c => (c, false))
    let matched := here.length
    let moved := ((here.zip there).countP fun p => p.1 != p.2) / 2
    if matched = 0 then 0
    else
      (matched.toFloat / a.length.toFloat + matched.toFloat / b.length.toFloat +
        (matched - moved).toFloat / matched.toFloat) / 3

/-- Words of more than this similarity are offered. -/
def leastSimilarity : Float := 0.7

/-- Put a word behind all that are no more similar than it. -/
def rank (entry : Float × String) : List (Float × String) → List (Float × String)
  | [] => [entry]
  | e :: rest => if e.1 > entry.1 then entry :: e :: rest else e :: rank entry rest

def similarWords (word : String) (words : List String) : List String :=
  let scored := words.map fun w => (similarity word w, w)
  ((scored.filter fun e => e.1 > leastSimilarity).foldl (fun ranked e => rank e ranked) []).map
    Prod.snd

def mostSimilar? (word : String) (words : List String) : Option String :=
  (similarWords word words).getLast?

end CodeSurvey.CommandLine
