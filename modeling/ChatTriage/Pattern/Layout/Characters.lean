import Std.Data.HashMap
import ChatTriage.Pattern.Layout.Basic
import ChatTriage.Unicode.Utf8

/-!
# States for a set of characters

A set of ASCII characters takes two states. For any other set the rows of byte ranges are
laid out, and a row makes use of states that are there already. Those are looked up in a
table with a fixed number of places: a state that comes to the place of another displaces
it, and is laid out again when it is asked for later. The place of a state depends on the
numbers of the states that follow it, and so on all that was laid out before.
-/

namespace ChatTriage

open Unicode

/-- The number that tells in which place of a table the key goes: from each of its numbers
in turn, by exclusive or and a product in words of 64 bits. -/
def placeNumber (key : List Nat) : UInt64 :=
  key.foldl (fun h n => (h ^^^ n.toUInt64) * 1099511628211) 14695981039346656037

structure TabledLayout where
  layout : Layout
  /-- How many places the table has. -/
  places : Nat
  /-- The states in the table by their places, each with its key. -/
  table : Std.HashMap Nat (List Nat × Nat)

namespace TabledLayout

def start (places : Nat) (layout : Layout) : TabledLayout :=
  ⟨layout, places, {}⟩

def stateFor (t : TabledLayout) (key : List Nat) (extra : Nat) : Nat × TabledLayout :=
  let place := (placeNumber key).toNat % t.places
  match t.table[place]?.filter (·.1 = key) with
  | some (_, state) => (state, t)
  | none =>
    let state := t.layout.states
    (state, ⟨t.layout.add 1 extra, t.places, t.table.insert place (key, state)⟩)

/-- The state with the given transitions; where there are none, a character is over and
`target` follows. -/
def stateWith (target : Nat) (transitions : List (ByteRange × Nat)) (t : TabledLayout) :
    Nat × TabledLayout :=
  if transitions.isEmpty then
    (target, t)
  else
    t.stateFor (transitions.flatMap fun (r, next) => [r.low, r.high, next])
      (transitions.length * Layout.transition)

def addBranches (target : Nat) :
    ByteTree → TabledLayout → List (ByteRange × Nat) × TabledLayout
  | .nil, t => ([], t)
  | .cons first below others, t =>
    let (transitions, t) := addBranches target below t
    let (next, t) := stateWith target transitions t
    let (others, t) := addBranches target others t
    ((first, next) :: others, t)

/-- Lays out a row from its first range on. Each state leads on to the one before it, the
first of them to the state `next`. -/
def addRow (next : Nat) : List ByteRange → TabledLayout → TabledLayout
  | [], t => t
  | r :: row, t =>
    let (next, t) := t.stateFor [next, r.low, r.high] 0
    addRow next row t

end TabledLayout

namespace LayoutStep

/-- The states for a set of characters that are read forward: the states of a tree behind
the one that all rows lead to. The table has ten thousand places. -/
def ofTree (tree : ByteTree) : LayoutStep where
  apply l :=
    let start := TabledLayout.start 10000 (l.add 1 0)
    let (transitions, t) := start.addBranches l.states tree
    (t.stateWith l.states transitions).2.layout

/-- The states for a set of characters that are read backward: the states of all rows
behind the one that branches to them and the one that they lead to. The table has a
thousand places. -/
def ofRows (rows : List (List ByteRange)) : LayoutStep where
  apply l :=
    let start := TabledLayout.start 1000 (l.add 2 (rows.length * Layout.branch))
    (rows.foldl (fun t row => t.addRow (l.states + 1) row) start).layout

def ofSet (backward : Bool) (s : CodePointSet) : LayoutStep :=
  let intervals := s.intervals
  if intervals.all fun i => i.2 < 0x80 then
    states 2 (intervals.length * Layout.transition)
  else
    let rows := intervals.flatMap ByteRange.rows
    if backward then ofRows rows else ofTree (.ofRows rows)

end LayoutStep

end ChatTriage
