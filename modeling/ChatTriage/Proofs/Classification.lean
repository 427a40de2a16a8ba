import ChatTriage.Classifier
import ChatTriage.Proofs.Resolution
import ChatTriage.Proofs.SignatureScan
import ChatTriage.Proofs.VotedWeight

/-!
# The outcome of a classification

A text comes to one of three ends: it does not pass the gate, it passes and shows no
signature, or its signatures name a language. In the last case the rules always leave
somebody to win, so a text with a hit is code in a known language.
-/

namespace ChatTriage

open Candidate

def CodeShape.PassesGate (text : List Char) : Prop :=
  Text.trim text ≠ [] ∧ looksLikeCode text = true

theorem CodeShape.not_passesGate {text : List Char} :
    ¬ PassesGate text ↔ Text.trim text = [] ∨ looksLikeCode text = false := by
  rw [PassesGate, not_and_or, not_not, Bool.not_eq_true]

namespace Classifier

variable {k : Classifier} {text : List Char}

/-- What the rules make of the candidates that the scan of a text puts forward. -/
def resolution (k : Classifier) (text : List Char) : Resolution :=
  k.conflicts.resolve (ofMatches (k.signatures.scan text)) text

theorem explain_of_rejected (hgate : ¬ CodeShape.PassesGate text) :
    k.explain text = { result := .notCode } := by
  unfold explain
  rcases CodeShape.not_passesGate.1 hgate with h | h <;> simp [h]

theorem explain_of_no_hits (hgate : CodeShape.PassesGate text)
    (hscan : k.signatures.scan text = []) :
    k.explain text =
      { result := if CodeShape.hasCodeStructure text then .unknownCode else .notCode
        gatePassed := true } := by
  obtain ⟨hblank, hshape⟩ := hgate
  unfold explain
  simp [hblank, hshape, hscan, ofMatches]

theorem candidates_ne_nil (hscan : k.signatures.scan text ≠ []) :
    ofMatches (k.signatures.scan text) ≠ [] := by
  rw [ofMatches_scan]
  simpa using hscan

theorem explain_of_hits (hgate : CodeShape.PassesGate text)
    (hscan : k.signatures.scan text ≠ []) :
    k.explain text =
      k.traceOf text (k.signatures.scan text) (ofMatches (k.signatures.scan text)) := by
  obtain ⟨hblank, hshape⟩ := hgate
  unfold explain
  simp [hblank, hshape, candidates_ne_nil hscan]

theorem exists_winner_of_hits (hscan : k.signatures.scan text ≠ []) :
    ∃ w, Candidate.winner (k.resolution text).remaining = some w ∧
      k.traceOf text (k.signatures.scan text) (ofMatches (k.signatures.scan text)) =
        { result := .code w.language
          gatePassed := true
          matchCounts := k.signatures.scan text
          candidates := ofMatches (k.signatures.scan text)
          rules := (k.resolution text).applied
          remaining := (k.resolution text).remaining
          ambiguous := Candidate.tied (k.resolution text).remaining } := by
  have hleft : (k.resolution text).remaining ≠ [] :=
    ConflictTable.remaining_ne_nil (candidates_ne_nil hscan)
  obtain ⟨w, hw⟩ := exists_winner hleft
  refine ⟨w, hw, ?_⟩
  unfold traceOf
  rw [← resolution]
  simp only [hw]

theorem ambiguous_subset (k : Classifier) (text : List Char) :
    (k.explain text).ambiguous ⊆ languages (k.resolution text).remaining := by
  by_cases hgate : CodeShape.PassesGate text
  · by_cases hscan : k.signatures.scan text = []
    · rw [explain_of_no_hits hgate hscan]
      exact List.nil_subset _
    · obtain ⟨w, -, htrace⟩ := exists_winner_of_hits hscan
      rw [explain_of_hits hgate hscan, htrace]
      exact tied_subset _
  · rw [explain_of_rejected hgate]
    exact List.nil_subset _

/-! ## The trace behind the gate -/

structure PassedTrace (k : Classifier) (text : List Char) (tr : Trace) : Prop where
  gatePassed : tr.gatePassed = true
  matchCounts : tr.matchCounts = k.signatures.scan text
  aligned : List.Forall₂
    (fun (m : MatchCount) (c : Candidate) =>
      c.language = m.language ∧ c.weight = weightFor m.matched)
    tr.matchCounts tr.candidates
  weight_pos : (∀ m ∈ tr.matchCounts, m.matched < 2147483648) → ∀ c ∈ tr.candidates, 1 ≤ c.weight
  /-- A report that pairs hits with candidates shows every hit, with its own weight. -/
  zip_eq : tr.matchCounts.zip tr.candidates =
    tr.matchCounts.map fun m => (m, ⟨m.language, weightFor m.matched⟩)
  code_iff : (∃ l, tr.result = .code l) ↔ k.signatures.HasHit text
  code_mem : ∀ l, tr.result = .code l →
    l ∈ tr.matchCounts.map (·.language) ∧ l ∈ languages tr.remaining
  exists_winner : k.signatures.HasHit text →
    ∃ w, Candidate.winner tr.remaining = some w ∧ tr.result = .code w.language
  unknown_iff : tr.result = .unknownCode ↔
    ¬ k.signatures.HasHit text ∧ CodeShape.hasCodeStructure text = true

theorem passedTrace_of_no_hits (hgate : CodeShape.PassesGate text)
    (hscan : k.signatures.scan text = []) : PassedTrace k text (k.explain text) := by
  have hnone : ¬ k.signatures.HasHit text := fun h =>
    SignatureTable.scan_ne_nil_iff.2 h hscan
  rw [explain_of_no_hits hgate hscan]
  exact {
    gatePassed := rfl
    matchCounts := hscan.symm
    aligned := List.Forall₂.nil
    weight_pos := by simp
    zip_eq := rfl
    code_iff := by
      refine iff_of_false ?_ hnone
      rintro ⟨l, hl⟩
      dsimp only at hl
      split_ifs at hl
    code_mem := by
      intro l hl
      dsimp only at hl
      split_ifs at hl
    exists_winner := fun h => absurd h hnone
    unknown_iff := by
      dsimp only
      split_ifs with hstructure <;> simp [hnone, hstructure] }

theorem passedTrace_of_hits (hgate : CodeShape.PassesGate text)
    (hscan : k.signatures.scan text ≠ []) : PassedTrace k text (k.explain text) := by
  have hhit : k.signatures.HasHit text := SignatureTable.scan_ne_nil_iff.1 hscan
  obtain ⟨w, hw, htrace⟩ := exists_winner_of_hits hscan
  rw [explain_of_hits hgate hscan, htrace]
  have hleft : w.language ∈ languages (k.resolution text).remaining :=
    language_mem (winner_mem hw)
  exact {
    gatePassed := rfl
    matchCounts := rfl
    aligned := by
      rw [ofMatches_scan, List.forall₂_map_right_iff]
      exact List.forall₂_same.2 fun m _ => ⟨rfl, rfl⟩
    weight_pos := by
      intro hsmall c hc
      rw [ofMatches_scan] at hc
      obtain ⟨m, hm, rfl⟩ := List.mem_map.1 hc
      exact weightFor_pos (SignatureTable.matched_pos hm) (not_overflows_of_lt (hsmall m hm))
    zip_eq := by
      rw [ofMatches_scan, List.map_prod_left_eq_zip]
    code_iff := iff_of_true ⟨_, rfl⟩ hhit
    code_mem := by
      intro l hl
      obtain rfl : w.language = l := by simpa using hl
      refine ⟨?_, hleft⟩
      rw [← languages_ofMatches_scan]
      exact ConflictTable.languages_remaining_subset hleft
    exists_winner := fun _ => ⟨w, hw, rfl⟩
    unknown_iff := by simp [hhit] }

theorem passedTrace (k : Classifier) (hgate : CodeShape.PassesGate text) :
    PassedTrace k text (k.explain text) := by
  by_cases hscan : k.signatures.scan text = []
  · exact passedTrace_of_no_hits hgate hscan
  · exact passedTrace_of_hits hgate hscan

theorem exists_code_iff :
    (∃ l, k.detect text = .code l) ↔
      CodeShape.PassesGate text ∧ k.signatures.HasHit text := by
  by_cases hgate : CodeShape.PassesGate text
  · rw [and_iff_right hgate]
    exact (passedTrace k hgate).code_iff
  · refine iff_of_false ?_ fun h => hgate h.1
    rintro ⟨l, hl⟩
    rw [detect, explain_of_rejected hgate] at hl
    cases hl

/-- A blank text and one without the shape of code are no code. Behind the gate a text is
code in a known language exactly when it has a hit, and in an unknown one exactly when
it has none but is built like code. -/
theorem explain_outcome (k : Classifier) (text : List Char) :
    (Text.trim text = [] ∨ CodeShape.looksLikeCode text = false →
      k.explain text = ⟨.notCode, false, [], [], [], [], []⟩) ∧
    (Text.trim text ≠ [] ∧ CodeShape.looksLikeCode text = true →
      PassedTrace k text (k.explain text)) :=
  ⟨fun h => explain_of_rejected (CodeShape.not_passesGate.2 h), passedTrace k⟩

theorem explain_outcome_arrow :
    builtin.explain " ".toList = ⟨.notCode, false, [], [], [], [], []⟩ ∧
    PassedTrace builtin "let f = x => x".toList (builtin.explain "let f = x => x".toList) :=
  ⟨(explain_outcome builtin " ".toList).1 (.inl (by decide +kernel)),
    (explain_outcome builtin "let f = x => x".toList).2
      ⟨by decide +kernel, by decide +kernel⟩⟩

end Classifier

end ChatTriage
