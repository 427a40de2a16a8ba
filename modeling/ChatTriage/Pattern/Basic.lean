import ChatTriage.Pattern.CharSet

/-!
# Patterns

Search patterns over a text, and the relation that gives them meaning: `Matches t p i j`
says that `p` matches the characters of `t` from position `i` up to position `j`.
Positions count characters, and the last one stands behind the text.
-/

namespace ChatTriage

open Unicode

inductive Assertion
  | textStart
  | textEnd
  | lineStart
  | lineEnd
  | wordBoundary
  | noWordBoundary
  | wordStart
  | wordEnd
deriving DecidableEq, Repr

inductive Pattern
  | empty
  | set (s : CharSet)
  | assertion (a : Assertion)
  | seq (p q : Pattern)
  | alt (p q : Pattern)
  | star (p : Pattern)
  /-- Exactly `n` times in a row. -/
  | times (p : Pattern) (n : Nat)
deriving DecidableEq, Repr

/-- Whether the assertion holds between two neighbouring characters; `none` stands for
the edge of the text. A line ends at a line feed and nowhere else. -/
def Assertion.holdsBetween (before after : Option Char) : Assertion → Bool
  | textStart => before.isNone
  | textEnd => after.isNone
  | lineStart => before.isNone || before == some '\n'
  | lineEnd => after.isNone || after == some '\n'
  | wordBoundary => before.any isWord != after.any isWord
  | noWordBoundary => before.any isWord == after.any isWord
  | wordStart => !before.any isWord && after.any isWord
  | wordEnd => before.any isWord && !after.any isWord

def charBefore (text : Array Char) : Nat → Option Char
  | 0 => none
  | i + 1 => text[i]?

def Assertion.holdsAt (a : Assertion) (text : Array Char) (i : Nat) : Bool :=
  a.holdsBetween (charBefore text i) text[i]?

/-- The pattern matches the text from the first position to the second. -/
inductive Matches (text : Array Char) : Pattern → Nat → Nat → Prop
  | empty {i : Nat} : Matches text .empty i i
  | set {s : CharSet} {i : Nat} {c : Char} (hc : text[i]? = some c)
      (hs : s.contains c = true) : Matches text (.set s) i (i + 1)
  | assertion {a : Assertion} {i : Nat} (ha : a.holdsAt text i = true) :
      Matches text (.assertion a) i i
  | seq {p q : Pattern} {i j k : Nat} (hp : Matches text p i j) (hq : Matches text q j k) :
      Matches text (.seq p q) i k
  | altLeft {p q : Pattern} {i j : Nat} (hp : Matches text p i j) : Matches text (.alt p q) i j
  | altRight {p q : Pattern} {i j : Nat} (hq : Matches text q i j) : Matches text (.alt p q) i j
  | starNil {p : Pattern} {i : Nat} : Matches text (.star p) i i
  | starCons {p : Pattern} {i j k : Nat} (hp : Matches text p i j)
      (hs : Matches text (.star p) j k) : Matches text (.star p) i k
  | timesZero {p : Pattern} {i : Nat} : Matches text (.times p 0) i i
  | timesSucc {p : Pattern} {n i j k : Nat} (hp : Matches text p i j)
      (hs : Matches text (.times p n) j k) : Matches text (.times p (n + 1)) i k

namespace Pattern

def char (c : Char) : Pattern :=
  set (.single c)

def optional (p : Pattern) : Pattern :=
  alt p empty

/-- From `low` to `high` times; without end if `high` is missing. -/
def between (p : Pattern) (low : Nat) : (high : Option Nat) → Pattern
  | none => seq (times p low) (star p)
  | some high => seq (times p low) (times (optional p) (high - low))

end Pattern

end ChatTriage
