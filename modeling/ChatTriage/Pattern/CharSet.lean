import ChatTriage.Unicode.CharacterClass
import ChatTriage.Unicode.LetterCase

/-!
# Character sets of patterns

What a single position of a pattern may match: ranges, the three named classes, and
what unions and complements make of them.
-/

namespace ChatTriage

open Unicode

/-- A set of characters as patterns write it. -/
inductive CharSet
  | empty
  /-- The characters from `low` to `high`. -/
  | range (low high : Char)
  /-- The characters that differ from one in the range at most in case. -/
  | caselessRange (low high : Char)
  | word
  | digit
  | blank
  | union (s t : CharSet)
  /-- What lies in exactly one of the sets. -/
  | symmDiff (s t : CharSet)
  | complement (s : CharSet)
deriving DecidableEq, Repr

namespace CharSet

def contains : CharSet → Char → Bool
  | empty, _ => false
  | range low high, c => low ≤ c && c ≤ high
  | caselessRange low high, c => (caseOrbit c).any fun d => low ≤ d && d ≤ high
  | word, c => isWord c
  | digit, c => isDigit c
  | blank, c => isBlank c
  | union s t, c => s.contains c || t.contains c
  | symmDiff s t, c => s.contains c != t.contains c
  | complement s, c => !s.contains c

def single (c : Char) : CharSet :=
  range c c

def inter (s t : CharSet) : CharSet :=
  complement (union (complement s) (complement t))

def diff (s t : CharSet) : CharSet :=
  inter s (complement t)

/-- The same set without regard to case. The named classes hold whole orbits already,
and a complement is taken of the widened set. -/
def ignoringCase : CharSet → CharSet
  | range low high => caselessRange low high
  | union s t => union s.ignoringCase t.ignoringCase
  | symmDiff s t => symmDiff s.ignoringCase t.ignoringCase
  | complement s => complement s.ignoringCase
  | s => s

@[simp] theorem contains_single (c d : Char) :
    (single c).contains d = true ↔ d = c := by
  simp only [single, contains, Bool.and_eq_true, decide_eq_true_eq]
  constructor
  · intro h
    exact Char.le_antisymm h.2 h.1
  · rintro rfl
    exact ⟨Char.le_refl _, Char.le_refl _⟩

@[simp] theorem contains_inter (s t : CharSet) (c : Char) :
    (inter s t).contains c = (s.contains c && t.contains c) := by
  simp [inter, contains]

@[simp] theorem contains_diff (s t : CharSet) (c : Char) :
    (diff s t).contains c = (s.contains c && !t.contains c) := by
  simp [diff, contains]

def codePoints : CharSet → CodePointSet
  | empty => .empty
  | range low high => .interval low.toNat high.toNat
  | caselessRange low high => widenCase (.interval low.toNat high.toNat)
  | word => wordPoints
  | digit => decimalDigit
  | blank => whiteSpace
  | union s t => s.codePoints.union t.codePoints
  | symmDiff s t => .combine (· != ·) s.codePoints t.codePoints
  | complement s => (CodePointSet.interval 0 CodePointSet.lastCodePoint).diff s.codePoints

end CharSet

end ChatTriage
