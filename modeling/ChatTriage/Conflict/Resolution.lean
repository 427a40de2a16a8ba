import ChatTriage.Candidate
import ChatTriage.Conflict.Table

/-!
# Resolving conflicts

Rules are applied in table order, and a rule fires while both its languages are
candidates. The loser leaves; who stays moves to the end of the list and keeps the
weight of its votes, for rule weights only break ties in markers.
-/

namespace ChatTriage

inductive Verdict
  /-- One side had more markers. -/
  | markers
  /-- Equally many markers, and the higher rule weight decided. -/
  | tieBreak
  /-- Equally many markers and equal weights: both stay. -/
  | unresolved
deriving DecidableEq, Repr

structure RuleOutcome where
  a : Language
  b : Language
  markersA : Nat
  markersB : Nat
  verdict : Verdict
  /-- The languages that stay. -/
  kept : List Language
deriving DecidableEq, Repr

/-- The candidates left, and the outcomes of the rules that fired, in order. -/
structure Resolution where
  remaining : List Candidate
  applied : List RuleOutcome
deriving DecidableEq, Repr

def Candidate.find? (cs : List Candidate) (l : Language) : Option Candidate :=
  List.find? (·.language == l) cs

namespace CompiledRule

/-- The outcome on a text. It does not depend on who else is in the running. -/
def settle (r : CompiledRule) (text : List Char) : RuleOutcome :=
  let a := r.rule.a
  let b := r.rule.b
  let markersA := Pattern.countHits r.markersA text.toArray
  let markersB := Pattern.countHits r.markersB text.toArray
  let (verdict, kept) : Verdict × List Language :=
    if markersA > markersB then (.markers, [a])
    else if markersA < markersB then (.markers, [b])
    else if r.rule.weightA > r.rule.weightB then (.tieBreak, [a])
    else if r.rule.weightA < r.rule.weightB then (.tieBreak, [b])
    else (.unresolved, [a, b])
  ⟨a, b, markersA, markersB, verdict, kept⟩

def fires (r : CompiledRule) (cs : List Candidate) : Bool :=
  (Candidate.find? cs r.rule.a).isSome && (Candidate.find? cs r.rule.b).isSome

/-- The candidates after the rule has fired with the given outcome: those that it does
not name, then the first of each language kept. -/
def survivors (r : CompiledRule) (kept : List Language) (cs : List Candidate) :
    List Candidate :=
  (cs.filter fun c => c.language != r.rule.a && c.language != r.rule.b) ++
    kept.filterMap (Candidate.find? cs)

end CompiledRule

namespace ConflictTable

def resolveWith (text : List Char) : List CompiledRule → List Candidate → Resolution
  | [], cs => ⟨cs, []⟩
  | r :: rules, cs =>
    if r.fires cs then
      let outcome := r.settle text
      let rest := resolveWith text rules (r.survivors outcome.kept cs)
      ⟨rest.remaining, outcome :: rest.applied⟩
    else
      resolveWith text rules cs

def resolve (t : ConflictTable) (cs : List Candidate) (text : List Char) : Resolution :=
  resolveWith text t.rules cs

end ConflictTable

namespace Candidate

/-- The heavier candidate is ahead, and of two equally heavy ones the one whose language
stands earlier in the catalog. -/
def isAhead (c d : Candidate) : Bool :=
  d.weight < c.weight || (c.weight == d.weight && c.language.index < d.language.index)

def winner : List Candidate → Option Candidate
  | [] => none
  | c :: cs => some (cs.foldl (fun best d => if d.isAhead best then d else best) c)

def topWeight (cs : List Candidate) : UInt32 :=
  cs.foldl (fun w c => max w c.weight) 0

/-- The languages that share the top weight, in catalog order. One alone ties with
nobody. -/
def tied (cs : List Candidate) : List Language :=
  let top := Language.all.filter fun l =>
    cs.any fun c => c.language == l && c.weight == topWeight cs
  if top.length < 2 then [] else top

end Candidate

end ChatTriage
