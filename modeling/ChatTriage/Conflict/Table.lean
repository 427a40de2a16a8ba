import ChatTriage.Pattern.Compile

/-!
# Conflict tables

A rule settles a pair of look-alike languages: by the markers of either side that a text
shows, and by a weight when these are equally many. A table holds at most one rule for a
pair.
-/

namespace ChatTriage

structure ConflictRule where
  a : Language
  weightA : UInt32
  markersA : List String
  b : Language
  weightB : UInt32
  markersB : List String
deriving DecidableEq, Repr

def ConflictRule.isAbout (r : ConflictRule) (x y : Language) : Bool :=
  (r.a == x && r.b == y) || (r.a == y && r.b == x)

structure CompiledRule where
  rule : ConflictRule
  markersA : List Pattern
  markersB : List Pattern

/-- Compiles the markers of side a, then those of side b. -/
def ConflictRule.compile (k : PatternCompiler) (r : ConflictRule) :
    Except TableError CompiledRule := do
  let markersA ← k.compileAll .conflict r.a r.markersA
  let markersB ← k.compileAll .conflict r.b r.markersB
  return ⟨r, markersA, markersB⟩

/-- The rule with its markers, when these are known to be well formed and small. -/
def ConflictRule.read (r : ConflictRule) : CompiledRule :=
  ⟨r, Pattern.readList r.markersA, Pattern.readList r.markersB⟩

structure ConflictTable where
  rules : List CompiledRule

namespace ConflictTable

/-- Checks and compiles rules one after the other; `earlier` holds those that passed. -/
def compileAfter (k : PatternCompiler) (earlier : List ConflictRule) :
    List ConflictRule → Except TableError (List CompiledRule)
  | [] => .ok []
  | r :: rest =>
    if r.a = r.b then
      .error (.selfConflict r.a)
    else if earlier.any (·.isAbout r.a r.b) then
      .error (.duplicateRule r.a r.b)
    else do
      let compiled ← r.compile k
      let others ← compileAfter k (r :: earlier) rest
      return compiled :: others

def ofRulesWith (k : PatternCompiler) (rules : List ConflictRule) :
    Except TableError ConflictTable :=
  (compileAfter k [] rules).map ConflictTable.mk

def ofRules (rules : List ConflictRule) : Except TableError ConflictTable :=
  ofRulesWith .standard rules

def size (t : ConflictTable) : Nat :=
  t.rules.length

def isEmpty (t : ConflictTable) : Bool :=
  t.rules.isEmpty

def ruleFor (t : ConflictTable) (x y : Language) : Option ConflictRule :=
  (t.rules.map CompiledRule.rule).find? (·.isAbout x y)

end ConflictTable

end ChatTriage
