import ChatTriage.CodeShape
import ChatTriage.Conflict.Catalog
import ChatTriage.Conflict.Resolution
import ChatTriage.Signature.Catalog

/-!
# Classifying code

A text with the shape of code is searched for signatures, the hits put candidates
forward, conflict rules thin them out, and the heaviest one left names the language. The
trace of a text keeps every step.
-/

namespace ChatTriage

inductive Detection
  | notCode
  /-- Code in no language of the catalog. -/
  | unknownCode
  | code (l : Language)
deriving DecidableEq, Repr

namespace Detection

def isCode : Detection → Bool
  | notCode => false
  | unknownCode | code _ => true

def language : Detection → Option Language
  | code l => some l
  | notCode | unknownCode => none

def label : Detection → Option String
  | notCode => none
  | unknownCode => some "CODE"
  | code l => some l.displayName

end Detection

/-- Every step of the classification of a text. -/
structure Trace where
  result : Detection
  gatePassed : Bool := false
  matchCounts : List MatchCount := []
  candidates : List Candidate := []
  rules : List RuleOutcome := []
  remaining : List Candidate := []
  /-- The languages that tied for the lead, of which the earliest in the catalog won. -/
  ambiguous : List Language := []
deriving DecidableEq, Repr

structure Classifier where
  signatures : SignatureTable
  conflicts : ConflictTable

namespace Classifier

def builtin : Classifier :=
  ⟨.builtin, .builtin⟩

/-- The trace of a text that candidates were found in. -/
def traceOf (k : Classifier) (text : List Char) (matchCounts : List MatchCount)
    (candidates : List Candidate) : Trace :=
  let resolution := k.conflicts.resolve candidates text
  { result :=
      match Candidate.winner resolution.remaining with
      | some c => .code c.language
      | none => .unknownCode
    gatePassed := true
    matchCounts := matchCounts
    candidates := candidates
    rules := resolution.applied
    remaining := resolution.remaining
    ambiguous := Candidate.tied resolution.remaining }

def explain (k : Classifier) (text : List Char) : Trace :=
  if (Text.trim text).isEmpty || !CodeShape.looksLikeCode text then
    { result := .notCode }
  else
    let matchCounts := k.signatures.scan text
    let candidates := Candidate.ofMatches matchCounts
    if candidates.isEmpty then
      { result := if CodeShape.hasCodeStructure text then .unknownCode else .notCode
        gatePassed := true }
    else
      k.traceOf text matchCounts candidates

def detect (k : Classifier) (text : List Char) : Detection :=
  (k.explain text).result

end Classifier

end ChatTriage
