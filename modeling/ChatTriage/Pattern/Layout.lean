import ChatTriage.Pattern.Layout.Characters
import ChatTriage.Pattern.Layout.Words
import ChatTriage.Pattern.Literal

/-!
# The size of patterns

Patterns whose automaton would be too large are refused. A search needs two automata, one
that reads a text forward and one that reads it backward; both are laid out, but no
further than shows that a limit is passed. A list of patterns is always looked for by
automata, since all of its patterns that match are wanted.
-/

namespace ChatTriage

open Unicode

structure AutomatonKind where
  /-- The automaton reads from the end of a match to its start. -/
  backward : Bool
  /-- The automaton records where groups match. -/
  captures : Bool
  /-- Bytes that the automaton may take. -/
  limit : Nat

namespace PatternShape

def bytesOf (backward : Bool) (cs : List Char) : List UInt8 :=
  if backward then (utf8Bytes cs).reverse else utf8Bytes cs

mutual

/-- The states for a pattern. Text takes a state per byte. -/
def layoutStep (k : AutomatonKind) : PatternShape → LayoutStep
  | empty => .states 1 0
  | text cs => .states (bytesOf k.backward cs).length 0
  | set s => .ofSet k.backward s
  | assertion _ => .states 1 0
  | repetition p low high _ =>
    (p.layoutStep k).repeated k.limit p.takesCharacter low high
  | group p =>
    if k.captures then .row k.limit [.states 1 0, p.layoutStep k, .states 1 0]
    else p.layoutStep k
  | row ps =>
    let steps := layoutSteps k ps
    .row k.limit (if k.backward then steps.reverse else steps)
  | choice ps =>
    match ps.mapM text? with
    | some texts => .words (texts.map (bytesOf k.backward))
    | none => .choice k.limit (layoutSteps k ps)

def layoutSteps (k : AutomatonKind) : List PatternShape → List LayoutStep
  | [] => []
  | p :: ps => p.layoutStep k :: layoutSteps k ps

end

/-- Whether a match can only lie at the bound of the text where the automaton starts. -/
def isAnchored (k : AutomatonKind) (p : PatternShape) : Bool :=
  if k.backward then p.endsWith .textEnd else p.startsWith .textStart

/-- The automaton that looks for any of the patterns. Each of them ends in a state of its
own, and in front of all is a loop that skips any bytes, unless no pattern has a use for
it. -/
def automaton (k : AutomatonKind) (ps : List PatternShape) : Layout :=
  let skip : LayoutStep :=
    if ps.all (isAnchored k) then .states 1 0
    else .states 3 (2 * Layout.branch + Layout.transition)
  let whole (p : PatternShape) : LayoutStep :=
    .row k.limit [(group p).layoutStep k, .states 1 0]
  let patterns := LayoutStep.choice k.limit (ps.map whole)
  (LayoutStep.row k.limit [skip, patterns]).apply .empty

def automatonFits (k : AutomatonKind) (ps : List PatternShape) : Bool :=
  (automaton k ps).bytes ≤ k.limit

end PatternShape

namespace PatternTree

open PatternShape

/-- Bytes that an automaton for a single pattern may take: ten times `2 ^ 20`. -/
def singleLimit : Nat :=
  10485760

/-- Bytes that an automaton for a list of patterns may take: `2 ^ 26`. -/
def listLimit : Nat :=
  67108864

/-- Whether a pattern stays within the limit for a single one. What is looked for by texts
alone needs no automaton. -/
def fits (t : PatternTree) : Bool :=
  (automatonFits ⟨false, true, singleLimit⟩ [t.shape] &&
    automatonFits ⟨true, false, singleLimit⟩ [t.shape]) || t.shape.isSoughtByText

def fitTogether (ts : List PatternTree) : Bool :=
  automatonFits ⟨false, false, listLimit⟩ (shapes ts) &&
    automatonFits ⟨true, false, listLimit⟩ (shapes ts)

end PatternTree

end ChatTriage
