import ChatTriage.Pattern.Basic

/-!
# Written patterns as trees

The structure of a pattern as it is written, with the flags already applied: groups,
rows, choices and repetitions as they stand. A tree says which pattern is meant, and it
still shows how deep the written form nests and what an automaton for it costs.
-/

namespace ChatTriage

inductive PatternTree
  /-- Nothing, or flags alone. -/
  | blank
  /-- A set of characters, and how deep the brackets around it nest. -/
  | set (s : CharSet) (depth : Nat)
  | assertion (a : Assertion)
  | group (captures : Bool) (t : PatternTree)
  /-- From `low` to `high` times; without end if `high` is missing. -/
  | repetition (t : PatternTree) (low : Nat) (high : Option Nat) (isLazy : Bool)
  /-- Two parts or more in a row. -/
  | row (ts : List PatternTree)
  /-- Two alternatives or more. -/
  | choice (ts : List PatternTree)

namespace PatternTree

def ofRow : List PatternTree → PatternTree
  | [] => blank
  | [t] => t
  | ts => row ts

def ofChoice : List PatternTree → PatternTree
  | [] => blank
  | [t] => t
  | ts => choice ts

mutual

/-- How deep the written form nests. Groups, repetitions, rows, choices and brackets are
one level each. -/
def depth : PatternTree → Nat
  | blank => 0
  | set _ depth => depth
  | assertion _ => 0
  | group _ t => t.depth + 1
  | repetition t _ _ _ => t.depth + 1
  | row ts => depthOfAll ts + 1
  | choice ts => depthOfAll ts + 1

def depthOfAll : List PatternTree → Nat
  | [] => 0
  | t :: ts => max t.depth (depthOfAll ts)

end

/-- A pattern that nests deeper than this is refused. -/
def maxDepth : Nat :=
  250

mutual

def pattern : PatternTree → Pattern
  | blank => .empty
  | set s _ => .set s
  | assertion a => .assertion a
  | group _ t => t.pattern
  | repetition t low high _ => t.pattern.between low high
  | row ts => patternOfRow ts
  | choice ts => patternOfChoice ts

/-- The pattern of parts in a row. Flags alone add nothing to it. -/
def patternOfRow : List PatternTree → Pattern
  | [] => .empty
  | [t] => t.pattern
  | blank :: ts => patternOfRow ts
  | t :: ts => .seq t.pattern (patternOfRow ts)

def patternOfChoice : List PatternTree → Pattern
  | [] => .empty
  | [t] => t.pattern
  | t :: ts => .alt t.pattern (patternOfChoice ts)

end

end PatternTree

end ChatTriage
