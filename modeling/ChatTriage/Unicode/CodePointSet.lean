/-!
# Sets of code points

A set is stored as the ascending code points at which membership changes, so a
character belongs to it exactly when an odd number of them lie at or below it.
-/

namespace ChatTriage.Unicode

/-- A set of code points; `boundaries` is strictly ascending. -/
structure CodePointSet where
  boundaries : Array Nat

namespace CodePointSet

/-- The number of boundaries at or below `n`, given that it lies between `low` and
`high`; the interval halves in each step. -/
def rankBetween (s : CodePointSet) (n : Nat) : (fuel low high : Nat) → Nat
  | 0, low, _ => low
  | fuel + 1, low, high =>
    if low < high then
      let middle := (low + high) / 2
      if s.boundaries.getD middle 0 ≤ n then
        s.rankBetween n fuel (middle + 1) high
      else
        s.rankBetween n fuel low middle
    else
      low

def rank (s : CodePointSet) (n : Nat) : Nat :=
  s.rankBetween n s.boundaries.size 0 s.boundaries.size

def contains (s : CodePointSet) (c : Char) : Bool :=
  s.rank c.toNat % 2 == 1

/-! ## Boolean operations -/

/-- The boundaries of a combination behind a point that lies in the two sets as `inFirst`
and `inSecond` say; the lists hold their boundaries from there on. A point is a boundary
of the combination when `keep` changes its answer there. -/
def combineFrom (keep : Bool → Bool → Bool) : (fuel : Nat) → (inFirst inSecond : Bool) →
    List Nat → List Nat → List Nat
  | 0, _, _, _, _ => []
  | fuel + 1, inFirst, inSecond, xs, ys =>
    let goOn (n : Nat) (first second : Bool) (xs ys : List Nat) : List Nat :=
      let rest := combineFrom keep fuel first second xs ys
      if keep first second == keep inFirst inSecond then rest else n :: rest
    match xs, ys with
    | [], [] => []
    | x :: xs, [] => goOn x (!inFirst) inSecond xs []
    | [], y :: ys => goOn y inFirst (!inSecond) [] ys
    | x :: xs, y :: ys =>
      if x < y then goOn x (!inFirst) inSecond xs (y :: ys)
      else if y < x then goOn y inFirst (!inSecond) (x :: xs) ys
      else goOn x (!inFirst) (!inSecond) xs ys

/-- The set of all code points for which `keep` holds of membership in `s` and in `t`. -/
def combine (keep : Bool → Bool → Bool) (s t : CodePointSet) : CodePointSet :=
  let xs := s.boundaries.toList
  let ys := t.boundaries.toList
  let found := combineFrom keep (xs.length + ys.length) false false xs ys
  let found := match keep false false, found with
    | false, found => found
    | true, 0 :: rest => rest
    | true, found => 0 :: found
  ⟨found.toArray⟩

def empty : CodePointSet :=
  ⟨#[]⟩

def interval (low high : Nat) : CodePointSet :=
  if low ≤ high then ⟨#[low, high + 1]⟩ else empty

def union (s t : CodePointSet) : CodePointSet :=
  combine (· || ·) s t

def diff (s t : CodePointSet) : CodePointSet :=
  combine (fun inFirst inSecond => inFirst && !inSecond) s t

def joinPairs : List CodePointSet → List CodePointSet
  | s :: t :: sets => s.union t :: joinPairs sets
  | sets => sets

/-- The union of all sets. They are joined in pairs of neighbours, so that no set is copied
often; the fuel is at least the number of rounds that this takes. -/
def unionAll : (fuel : Nat) → List CodePointSet → CodePointSet
  | _, [] => empty
  | _, [s] => s
  | 0, _ => empty
  | fuel + 1, sets => unionAll fuel (joinPairs sets)

def lastCodePoint : Nat :=
  0x10FFFF

def surrogates : CodePointSet :=
  interval 0xD800 0xDFFF

def pairUp : List Nat → List (Nat × Nat)
  | [] => []
  | [low] => [(low, lastCodePoint)]
  | low :: next :: rest => (low, next - 1) :: pairUp rest

def intervals (s : CodePointSet) : List (Nat × Nat) :=
  (pairUp (s.diff surrogates).boundaries.toList).filter fun (low, _) => low ≤ lastCodePoint

end CodePointSet

end ChatTriage.Unicode
