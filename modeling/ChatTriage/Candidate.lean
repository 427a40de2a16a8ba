import ChatTriage.Signature.Table

/-!
# Candidates

Hits vote for languages. A single hit is weak evidence, and each of several counts
double.
-/

namespace ChatTriage

structure Candidate where
  language : Language
  weight : UInt32
deriving DecidableEq, Repr

namespace Candidate

/-- The weight of a number of hits. A number that does not fit 32 bits counts as the
largest one whose double does. -/
def weightFor (matched : Nat) : UInt32 :=
  let n : UInt32 := if matched < 4294967296 then matched.toUInt32 else 2147483647
  if n ≤ 1 then n else n * 2

def ofMatches (ms : List MatchCount) : List Candidate :=
  (ms.filter fun m => 0 < m.matched).map fun m => ⟨m.language, weightFor m.matched⟩

end Candidate

end ChatTriage
