import ChatTriage.Pattern.Layout.Basic

/-!
# States for a choice between words

Words share the states of their common starts. The order of alternatives has to be kept,
so a word that is over cuts the words around it into runs, and only words of one run
share anything.
-/

namespace ChatTriage

namespace Layout

def putWord {α : Type} [DecidableEq α] (first : α) (rest : List α) :
    List (α × List (List α)) → List (α × List (List α))
  | [] => [(first, [rest])]
  | (b, rests) :: groups =>
    if first = b then (b, rest :: rests) :: groups
    else (b, rests) :: putWord first rest groups

def groups {α : Type} [DecidableEq α] (words : List (List α)) :
    List (α × List (List α)) :=
  words.foldr (fun word found =>
    match word with
    | [] => found
    | first :: rest => putWord first rest found) []

/-- The runs of words between those that are over, of which there is one more. -/
def runs {α : Type} : List (List α) → List (List (List α))
  | [] => [[]]
  | [] :: words => [] :: runs words
  | word :: words =>
    match runs words with
    | [] => [[word]]
    | run :: others => (word :: run) :: others

/-- Adds the states behind a common start of words, given what follows it in each of them:
a state for each run that is not empty, and one that branches to these and, between two
runs, to the end. No word is longer than the fuel. -/
def addWords {α : Type} [DecidableEq α] : (fuel : Nat) → List (List α) → Layout → Layout
  | 0, _, l => l
  | fuel + 1, words, l =>
    if words.all List.isEmpty then
      l
    else
      let (ended, words) := (words.takeWhile List.isEmpty, words.dropWhile List.isEmpty)
      let runs := runs words
      let ends := runs.length - 1 + if ended.isEmpty then 0 else 1
      let groups := (runs.map groups).filter (!·.isEmpty)
      let l := l.add 1 ((ends + groups.length) * branch)
      groups.foldl (fun l groups =>
        let extra := if groups.length = 1 then 0 else groups.length * transition
        groups.foldl (fun l (_, rests) => addWords fuel rests l) (l.add 1 extra)) l

end Layout

def LayoutStep.words {α : Type} [DecidableEq α] (words : List (List α)) : LayoutStep :=
  let longest := (words.map List.length).foldl max 0
  let found := Layout.empty.addWords (longest + 1) words
  states (found.states + 1) found.extra

end ChatTriage
