import ChatTriage.Pattern.Token
import ChatTriage.Pattern.Tree

/-!
# Reading patterns

From tokens to trees. Groups nest, and a stack holds the groups that are still open.
A text that is no pattern reads as `none`, and so does one that nests too deep.

What is read is a part of a larger syntax: characters by their number, classes by a
property, half word boundaries, names of groups, flags beside `i`, `m` and `s`, and flags
that are switched off read as `none` as well.
-/

namespace ChatTriage

structure OpenGroup where
  captures : Bool
  /-- The flags in force at this point of the group. -/
  flags : PatternFlags
  /-- Finished alternatives, nearest first. -/
  branches : List PatternTree
  /-- The parts of the alternative at hand, nearest first. -/
  parts : List PatternTree

namespace OpenGroup

def start (captures : Bool) (flags : PatternFlags) : OpenGroup :=
  ⟨captures, flags, [], []⟩

def add (g : OpenGroup) (t : PatternTree) : OpenGroup :=
  { g with parts := t :: g.parts }

def branch (g : OpenGroup) : PatternTree :=
  .ofRow g.parts.reverse

def nextBranch (g : OpenGroup) : OpenGroup :=
  { g with branches := g.branch :: g.branches, parts := [] }

def close (g : OpenGroup) : PatternTree :=
  .ofChoice (g.branch :: g.branches).reverse

/-- Repeats the last part. Flags alone are nothing to repeat. -/
def repeatLast (g : OpenGroup) (low : Nat) (high : Option Nat) (isLazy : Bool) :
    Option OpenGroup :=
  match g.parts with
  | [] | .blank :: _ => none
  | t :: before => some { g with parts := .repetition t low high isLazy :: before }

/-- The set as the flags of the group read it. -/
def set (g : OpenGroup) (s : CharSet) (depth : Nat) : PatternTree :=
  .set (if g.flags.ignoreCase then s.ignoringCase else s) depth

end OpenGroup

namespace PatternTree

/-- Takes one token: `g` is the innermost open group, `outer` those around it. -/
def readToken (g : OpenGroup) (outer : List OpenGroup) :
    PatternToken → Option (OpenGroup × List OpenGroup)
  | .literal c => some (g.add (g.set (.single c) 0), outer)
  | .set s depth => some (g.add (g.set s depth), outer)
  | .assertion a => some (g.add (.assertion a), outer)
  | .dot =>
    let s : CharSet := if g.flags.dotAll then .empty else .single '\n'
    some (g.add (.set (.complement s) 0), outer)
  | .caret =>
    some (g.add (.assertion (if g.flags.multiLine then .lineStart else .textStart)), outer)
  | .dollar =>
    some (g.add (.assertion (if g.flags.multiLine then .lineEnd else .textEnd)), outer)
  | .bar => some (g.nextBranch, outer)
  | .openGroup captures flags => some (.start captures (g.flags.or flags), g :: outer)
  | .closeGroup =>
    match outer with
    | [] => none
    | around :: outer => some (around.add (.group g.captures g.close), outer)
  | .switch flags => some ({ g.add .blank with flags := g.flags.or flags }, outer)
  | .repetition low high isLazy => (g.repeatLast low high isLazy).map (·, outer)

def ofTokens (g : OpenGroup) (outer : List OpenGroup) :
    List PatternToken → Option PatternTree
  | [] => if outer.isEmpty then some g.close else none
  | token :: tokens =>
    match readToken g outer token with
    | some (g, outer) => ofTokens g outer tokens
    | none => none

/-- The tree of the pattern that is written as `source`, if it is one. -/
def ofList? (source : List Char) : Option PatternTree := do
  let tokens ← PatternToken.readAll source.length source
  let t ← ofTokens (.start false {}) [] tokens
  if t.depth ≤ maxDepth then some t else none

def ofString? (source : String) : Option PatternTree :=
  ofList? source.toList

end PatternTree

def Pattern.ofString? (source : String) : Option Pattern :=
  (PatternTree.ofString? source).map (·.pattern)

end ChatTriage
