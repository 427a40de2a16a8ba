import ChatTriage.Pattern.Basic

/-!
# Searching a text

A search carries the set of all positions that a part of the pattern can end at, as an
ascending list without repetition. No position is looked at twice for the same part, so
the time grows with the length of the text times the size of the pattern, whatever the
repetitions in it.
-/

namespace ChatTriage

namespace Positions

def mergeHead (x : Nat) (rest : List Nat → List Nat) : List Nat → List Nat
  | [] => x :: rest []
  | y :: ys =>
    if x < y then x :: rest (y :: ys)
    else if x = y then x :: rest ys
    else y :: mergeHead x rest ys

def union : List Nat → List Nat → List Nat
  | [], ys => ys
  | x :: xs, ys => mergeHead x (union xs) ys

/-- The positions reachable from those of an ascending list when `open i` allows the step
from `i` to `i + 1`. -/
def sweep (canStep : Nat → Bool) : (fuel : Nat) → List Nat → List Nat
  | 0, ps => ps
  | _, [] => []
  | fuel + 1, i :: ps =>
    i :: sweep canStep fuel
      (if canStep i && ps.head? != some (i + 1) then (i + 1) :: ps else ps)

def mark (seen : Array Bool) (ps : List Nat) : Array Bool :=
  ps.foldl (fun s i => s.setIfInBounds i true) seen

/-- Marks all positions that repeated steps reach from `frontier`, which is marked
already; a round steps only from the positions that the last round added. -/
def spread (step : List Nat → List Nat) : (fuel : Nat) → (seen : Array Bool) →
    (frontier : List Nat) → Array Bool
  | 0, seen, _ => seen
  | fuel + 1, seen, frontier =>
    match (step frontier).filter fun i => !seen.getD i true with
    | [] => seen
    | fresh => spread step fuel (mark seen fresh) fresh

/-- The positions up to `last` that any number of steps reach from `ps`. -/
def closure (step : List Nat → List Nat) (last : Nat) (ps : List Nat) : List Nat :=
  let seen := spread step (last + 1) (mark (Array.replicate (last + 1) false) ps) ps
  (List.range (last + 1)).filter fun i => seen.getD i false

/-- `n` steps in a row. Once a step changes nothing the others change nothing either, so
that no more steps are taken than there are positions, however large `n` is. -/
def repeatStep (step : List Nat → List Nat) : Nat → List Nat → List Nat
  | 0, ps => ps
  | n + 1, ps =>
    let next := step ps
    if next = ps then ps else repeatStep step n next

end Positions

namespace Pattern

open Positions

/-- The positions where a match of the pattern can end that starts at one of `ps`. -/
def ends (text : Array Char) : Pattern → List Nat → List Nat
  | empty, ps => ps
  | set s, ps => (ps.filter fun i => text[i]?.any s.contains).map (· + 1)
  | assertion a, ps => ps.filter (a.holdsAt text)
  | seq p q, ps => q.ends text (p.ends text ps)
  | alt p q, ps => union (p.ends text ps) (q.ends text ps)
  | star (set s), ps => sweep (fun i => text[i]?.any s.contains) (text.size + 1) ps
  | star p, ps => if ps.isEmpty then [] else closure (p.ends text) text.size ps
  | times p n, ps => repeatStep (p.ends text) n ps

def occursIn (p : Pattern) (text : Array Char) : Bool :=
  !(p.ends text (List.range (text.size + 1))).isEmpty

end Pattern

end ChatTriage
