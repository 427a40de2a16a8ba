import ChatTriage.Proofs.Candidates
import ChatTriage.Signature.Catalog

/-!
# What a scan finds

A scan lists the languages with a hit, and a hit is a signature that occurs in the text.
Every one of them goes on as a candidate.
-/

namespace ChatTriage

/-- The count that a scan lists for a language, zero when it does not list the language. -/
def MatchCount.countOf (ms : List MatchCount) (l : Language) : Nat :=
  match ms.find? (·.language == l) with
  | some m => m.matched
  | none => 0

theorem MatchCount.countOf_cons_self (m : MatchCount) (ms : List MatchCount) :
    countOf (m :: ms) m.language = m.matched := by
  rw [countOf, List.find?_cons_of_pos (by simp)]

theorem MatchCount.countOf_cons_of_ne {m : MatchCount} {l : Language} (h : m.language ≠ l)
    (ms : List MatchCount) : countOf (m :: ms) l = countOf ms l := by
  rw [countOf, List.find?_cons_of_neg (by simpa using h), countOf]

theorem Pattern.countHits_pos {ps : List Pattern} {text : Array Char} :
    0 < countHits ps text ↔ ∃ p ∈ ps, p.occursIn text = true :=
  List.countP_pos_iff

namespace SignatureTable

variable {t : SignatureTable} {text : List Char} {m : MatchCount}

theorem scan_cons_of_pos {s : Signatures} {sets : List Signatures}
    (h : 0 < Pattern.countHits s.patterns text.toArray) :
    scan ⟨s :: sets⟩ text =
      ⟨s.language, Pattern.countHits s.patterns text.toArray⟩ :: scan ⟨sets⟩ text := by
  rw [scan, List.map_cons, List.filter_cons_of_pos (by simpa using h), scan]

theorem scan_cons_of_zero {s : Signatures} {sets : List Signatures}
    (h : Pattern.countHits s.patterns text.toArray = 0) :
    scan ⟨s :: sets⟩ text = scan ⟨sets⟩ text := by
  rw [scan, List.map_cons, List.filter_cons_of_neg (by simp [h]), scan]

theorem mem_scan :
    m ∈ t.scan text ↔ 0 < m.matched ∧
      ∃ s ∈ t.sets, m = ⟨s.language, Pattern.countHits s.patterns text.toArray⟩ := by
  rw [scan, List.mem_filter, List.mem_map, and_comm, decide_eq_true_eq]
  simp only [eq_comm]

theorem matched_pos (h : m ∈ t.scan text) : 0 < m.matched :=
  (mem_scan.1 h).1

def HasHit (t : SignatureTable) (text : List Char) : Prop :=
  ∃ s ∈ t.sets, ∃ p ∈ s.patterns, p.occursIn text.toArray = true

theorem scan_ne_nil_iff : t.scan text ≠ [] ↔ t.HasHit text := by
  constructor
  · intro h
    obtain ⟨m, hm⟩ := List.exists_mem_of_ne_nil _ h
    obtain ⟨hpos, s, hs, rfl⟩ := mem_scan.1 hm
    exact ⟨s, hs, Pattern.countHits_pos.1 hpos⟩
  · rintro ⟨s, hs, hp⟩
    have hm := mem_scan.2 ⟨Pattern.countHits_pos.2 hp, s, hs, rfl⟩
    exact List.ne_nil_of_mem hm

/-- Listed or not, the count of a language is the number of its signatures that occur. -/
theorem countOf_scan (hnodup : (t.sets.map (·.language)).Nodup) (text : List Char)
    (l : Language) :
    MatchCount.countOf (t.scan text) l =
      match t.sets.find? (·.language == l) with
      | some s => Pattern.countHits s.patterns text.toArray
      | none => 0 := by
  obtain ⟨sets⟩ := t
  induction sets with
  | nil => rfl
  | cons s sets ih =>
      rw [List.map_cons, List.nodup_cons] at hnodup
      by_cases hl : s.language = l
      · rw [List.find?_cons_of_pos (by simpa using hl)]
        rcases Nat.eq_zero_or_pos (Pattern.countHits s.patterns text.toArray) with hzero | hpos
        · have hlater : sets.find? (·.language == l) = none := by
            rw [List.find?_eq_none]
            intro s' hs' heq
            rw [beq_iff_eq, ← hl] at heq
            exact hnodup.1 (heq ▸ List.mem_map_of_mem hs')
          rw [scan_cons_of_zero hzero, ih hnodup.2, hlater]
          exact hzero.symm
        · rw [scan_cons_of_pos hpos]
          exact hl ▸ MatchCount.countOf_cons_self _ _
      · rw [List.find?_cons_of_neg (by simpa using hl)]
        rcases Nat.eq_zero_or_pos (Pattern.countHits s.patterns text.toArray) with hzero | hpos
        · rw [scan_cons_of_zero hzero, ih hnodup.2]
        · rw [scan_cons_of_pos hpos, MatchCount.countOf_cons_of_ne hl, ih hnodup.2]

end SignatureTable

namespace Candidate

theorem ofMatches_scan (t : SignatureTable) (text : List Char) :
    ofMatches (t.scan text) =
      (t.scan text).map fun m => ⟨m.language, weightFor m.matched⟩ := by
  have hall : (t.scan text).filter (fun m => 0 < m.matched) = t.scan text := by
    apply List.filter_eq_self.2
    intro m hm
    exact decide_eq_true (SignatureTable.matched_pos hm)
  rw [ofMatches, hall]

theorem languages_ofMatches_scan (t : SignatureTable) (text : List Char) :
    languages (ofMatches (t.scan text)) = (t.scan text).map (·.language) := by
  rw [ofMatches_scan, languages, List.map_map]
  rfl

end Candidate

end ChatTriage
