/-!
# Layouts of automata

A search runs an automaton over bytes. How large it gets is found by laying its states
out one after another: a layout counts the states so far and the room that branches and
transitions take beside them, and a step adds the states of one part of a pattern.

A state is known by how many there were before it.
-/

namespace ChatTriage

/-- An automaton as far as it is laid out. -/
structure Layout where
  states : Nat
  /-- Bytes that branches and transitions take beside the states. -/
  extra : Nat
deriving DecidableEq, Repr

namespace Layout

def empty : Layout :=
  ⟨0, 0⟩

def branch : Nat :=
  4

def transition : Nat :=
  8

/-- Bytes in all; a state takes 32. -/
def bytes (l : Layout) : Nat :=
  32 * l.states + l.extra

def add (l : Layout) (states extra : Nat) : Layout :=
  ⟨l.states + states, l.extra + extra⟩

@[simp] theorem bytes_add (l : Layout) (states extra : Nat) :
    (l.add states extra).bytes = l.bytes + (32 * states + extra) := by
  simp only [bytes, add]
  omega

end Layout

structure LayoutStep where
  apply : Layout → Layout

namespace LayoutStep

def states (n extra : Nat) : LayoutStep where
  apply l := l.add n extra

/-- One step after another. Once the limit is passed, nothing is left to find out. -/
def row (limit : Nat) (steps : List LayoutStep) : LayoutStep where
  apply l := steps.foldl (fun l step => if limit < l.bytes then l else step.apply l) l

def times (limit : Nat) (step : LayoutStep) : (n : Nat) → Layout → Layout
  | 0, l => l
  | n + 1, l => if limit < l.bytes then l else step.times limit n (step.apply l)

/-- Steps between which a search has the choice: a state branches to each of them, and all
of them lead to one more. These two are laid out behind the second step. -/
def choice (limit : Nat) : List LayoutStep → LayoutStep
  | [] => states 1 0
  | [step] => step
  | first :: second :: others =>
    let fork := states 2 ((others.length + 2) * Layout.branch)
    row limit (first :: second :: fork :: others)

/-- A step that is repeated from `low` to `high` times. A part that may match without
taking a character needs more states to be repeated without end. -/
def repeated (limit : Nat) (step : LayoutStep) (takesCharacter : Bool) :
    (low : Nat) → (high : Option Nat) → LayoutStep
  | 0, none =>
    if takesCharacter then row limit [states 1 (2 * Layout.branch), step]
    else row limit [step, states 3 (4 * Layout.branch)]
  | low, none => row limit [⟨step.times limit low⟩, states 1 (2 * Layout.branch)]
  | 0, some 1 => row limit [states 1 0, step, states 1 (2 * Layout.branch)]
  | low, some high =>
    if low = high then
      ⟨step.times limit low⟩
    else
      let required : LayoutStep := if low = 0 then states 1 0 else ⟨step.times limit low⟩
      let optional := row limit [states 1 (2 * Layout.branch), step]
      row limit [required, states 1 0, ⟨optional.times limit (high - low)⟩]

end LayoutStep

end ChatTriage
