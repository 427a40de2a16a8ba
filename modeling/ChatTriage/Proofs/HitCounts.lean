import ChatTriage.Proofs.Reordering
import ChatTriage.Report
import Mathlib.Algebra.GroupWithZero.Nat
import Mathlib.Algebra.Order.BigOperators.Group.List
import Mathlib.Algebra.Order.Group.Nat

/-!
# Hits per language

A scan lists its hits set by set, and the report on the languages counts the signatures of
the first set of each. Where no language has two sets, the two agree: a scan is a map from
languages to counts, and no count is higher than the number of signatures in the report. A
table may hold two sets of one language, and where both have a hit the language is listed
twice. What is listed for a language adds up to its hits in all of its sets.
-/

namespace ChatTriage

open Candidate

def SignatureSet.writtenFor (sets : List SignatureSet) (l : Language) : Nat :=
  ((sets.filter (·.language == l)).map (·.patterns.length)).sum

/-- What is listed for a language, in however many entries it is. -/
def MatchCount.totalOf (ms : List MatchCount) (l : Language) : Nat :=
  ((ms.filter (·.language == l)).map (·.matched)).sum

theorem MatchCount.totalOf_cons_self (m : MatchCount) (ms : List MatchCount) :
    totalOf (m :: ms) m.language = m.matched + totalOf ms m.language := by
  rw [totalOf, List.filter_cons_of_pos (by simp), List.map_cons, List.sum_cons, totalOf]

theorem MatchCount.totalOf_cons_of_ne {m : MatchCount} {l : Language} (h : m.language ≠ l)
    (ms : List MatchCount) : totalOf (m :: ms) l = totalOf ms l := by
  rw [totalOf, List.filter_cons_of_neg (by simpa using h), totalOf]

namespace SignatureTable

variable {t : SignatureTable} {sets : List SignatureSet} {text : List Char} {l : Language}

/-- The list is a map from languages to counts, and no count is higher than the number of
signatures that the table reports for the language. -/
structure IsHitMap (t : SignatureTable) (ms : List MatchCount) : Prop where
  nodup : (ms.map (·.language)).Nodup
  matched_pos : ∀ m ∈ ms, 1 ≤ m.matched
  matched_le : ∀ m ∈ ms, m.matched ≤ t.patternCount m.language

theorem totalOf_scan (t : SignatureTable) (text : List Char) (l : Language) :
    MatchCount.totalOf (t.scan text) l =
      ((t.sets.filter (·.language == l)).map
        fun s => Pattern.countHits s.patterns text.toArray).sum := by
  obtain ⟨sets⟩ := t
  induction sets with
  | nil => rfl
  | cons s sets ih =>
      -- The set is of the language or not, and it has a hit or is passed over.
      rcases Nat.eq_zero_or_pos (Pattern.countHits s.patterns text.toArray) with hzero | hpos
      · rw [scan_cons_of_zero hzero, ih]
        by_cases hl : s.language = l
        · rw [List.filter_cons_of_pos (by simpa using hl), List.map_cons, List.sum_cons,
            hzero, Nat.zero_add]
        · rw [List.filter_cons_of_neg (by simpa using hl)]
      · rw [scan_cons_of_pos hpos]
        by_cases hl : s.language = l
        · subst hl
          rw [MatchCount.totalOf_cons_self, ih, List.filter_cons_of_pos (by simp),
            List.map_cons, List.sum_cons]
        · rw [MatchCount.totalOf_cons_of_ne hl, ih,
            List.filter_cons_of_neg (by simpa using hl)]

theorem sum_length_eq_writtenFor (h : ofSets sets = .ok t) (l : Language) :
    ((t.sets.filter (·.language == l)).map (·.patterns.length)).sum =
      SignatureSet.writtenFor sets l := by
  obtain ⟨rfl, hcompile⟩ := ofSets_eq_ok_iff.1 h
  rw [SignatureSet.writtenFor, List.filter_map, List.map_map]
  congr 1
  apply List.map_congr_left
  intro s hs
  exact SignatureSet.length_read (hcompile s (List.mem_filter.1 hs).1)

theorem totalOf_scan_le (h : ofSets sets = .ok t) (text : List Char) (l : Language) :
    MatchCount.totalOf (t.scan text) l ≤ SignatureSet.writtenFor sets l := by
  rw [totalOf_scan, ← sum_length_eq_writtenFor h]
  exact List.sum_le_sum fun s _ => List.countP_le_length

/-! ## Where a scan is a map -/

theorem nodup_scan_iff :
    ((t.scan text).map (·.language)).Nodup ↔
      t.sets.Pairwise fun s s' =>
        0 < Pattern.countHits s.patterns text.toArray →
          0 < Pattern.countHits s'.patterns text.toArray → s.language ≠ s'.language := by
  rw [List.nodup_iff_pairwise_ne, scan, List.pairwise_map, List.pairwise_filter,
    List.pairwise_map]
  simp only [decide_eq_true_eq]

/-- A scan is a map unless two sets of one language have a hit, or one has more hits than
the first set of its language has signatures. -/
theorem isHitMap_scan_iff :
    t.IsHitMap (t.scan text) ↔
      (t.sets.Pairwise fun s s' =>
        0 < Pattern.countHits s.patterns text.toArray →
          0 < Pattern.countHits s'.patterns text.toArray → s.language ≠ s'.language) ∧
      ∀ s ∈ t.sets, Pattern.countHits s.patterns text.toArray ≤ t.patternCount s.language := by
  constructor
  · intro h
    refine ⟨nodup_scan_iff.1 h.nodup, fun s hs => ?_⟩
    rcases Nat.eq_zero_or_pos (Pattern.countHits s.patterns text.toArray) with hzero | hpos
    · rw [hzero]
      exact Nat.zero_le _
    · exact h.matched_le _ (mem_scan.2 ⟨hpos, s, hs, rfl⟩)
  · rintro ⟨hpairwise, hle⟩
    refine ⟨nodup_scan_iff.2 hpairwise, fun m hm => matched_pos hm, fun m hm => ?_⟩
    obtain ⟨-, s, hs, rfl⟩ := mem_scan.1 hm
    exact hle s hs

theorem find?_of_nodup (hdistinct : (t.sets.map (·.language)).Nodup) {s : Signatures}
    (hs : s ∈ t.sets) : t.sets.find? (·.language == s.language) = some s := by
  cases hfind : t.sets.find? (·.language == s.language) with
  | none =>
      have hnone := List.find?_eq_none.1 hfind s hs
      simp at hnone
  | some s' =>
      have hlanguage : s'.language = s.language := by
        simpa using List.find?_some hfind
      rw [List.inj_on_of_nodup_map hdistinct (List.mem_of_find?_eq_some hfind) hs hlanguage]

theorem patternCount_of_nodup (hdistinct : (t.sets.map (·.language)).Nodup)
    {s : Signatures} (hs : s ∈ t.sets) : t.patternCount s.language = s.patterns.length := by
  rw [patternCount, find?_of_nodup hdistinct hs]

theorem isHitMap_of_nodup (hdistinct : (t.sets.map (·.language)).Nodup)
    (text : List Char) : t.IsHitMap (t.scan text) := by
  rw [isHitMap_scan_iff, ← nodup_scan_iff]
  refine ⟨scan_languages_nodup hdistinct text, fun s hs => ?_⟩
  rw [patternCount_of_nodup hdistinct hs]
  exact List.countP_le_length

theorem patternCount_eq_sum (hdistinct : (t.sets.map (·.language)).Nodup) (l : Language) :
    t.patternCount l =
      ((t.sets.filter (·.language == l)).map (·.patterns.length)).sum := by
  obtain ⟨sets⟩ := t
  induction sets with
  | nil => rfl
  | cons s sets ih =>
      obtain ⟨hfirst, hrest⟩ := List.nodup_cons.1 hdistinct
      by_cases hl : s.language = l
      · have hnone : sets.filter (·.language == l) = [] := by
          apply List.filter_eq_nil_iff.2
          intro s' hs' heq
          have hmem : s'.language ∈ sets.map (·.language) := List.mem_map_of_mem hs'
          rw [beq_iff_eq.1 heq, ← hl] at hmem
          exact hfirst hmem
        rw [List.filter_cons_of_pos (by simpa using hl), hnone, patternCount,
          List.find?_cons_of_pos (by simpa using hl)]
        rfl
      · rw [List.filter_cons_of_neg (by simpa using hl), ← ih hrest, patternCount,
          List.find?_cons_of_neg (by simpa using hl), patternCount]

end SignatureTable

structure Classifier.ShowsHitMap (k : Classifier) (tr : Trace) : Prop where
  matches_nodup : (tr.matchCounts.map (·.language)).Nodup
  candidates_nodup : (languages tr.candidates).Nodup
  exists_entry : ∀ m ∈ tr.matchCounts, ∃ e ∈ k.languageEntries,
    e.language = m.language ∧ 1 ≤ m.matched ∧ m.matched ≤ e.patterns

namespace Classifier

variable {k : Classifier} {text : List Char}

theorem mem_languageEntries (k : Classifier) (l : Language) :
    ⟨l, k.signatures.patternCount l⟩ ∈ k.languageEntries :=
  List.mem_map_of_mem (by cases l <;> decide)

theorem showsHitMap_explain (h : k.signatures.IsHitMap (k.signatures.scan text)) :
    k.ShowsHitMap (k.explain text) := by
  have hnone : ∀ d b, k.ShowsHitMap { result := d, gatePassed := b } := fun d b =>
    ⟨List.nodup_nil, List.nodup_nil, by simp⟩
  by_cases hgate : CodeShape.PassesGate text
  · by_cases hscan : k.signatures.scan text = []
    · rw [explain_of_no_hits hgate hscan]
      exact hnone _ _
    · obtain ⟨w, -, htrace⟩ := exists_winner_of_hits hscan
      rw [explain_of_hits hgate hscan, htrace]
      refine ⟨h.nodup, ?_, fun m hm => ?_⟩
      · rw [languages_ofMatches_scan]
        exact h.nodup
      · exact ⟨_, mem_languageEntries k m.language, rfl, h.matched_pos m hm,
          h.matched_le m hm⟩
  · rw [explain_of_rejected hgate]
    exact hnone _ _

end Classifier

namespace SignatureTable

/-- What a scan lists for a language never adds up to more than is written for it. The
scan of a text is a map from languages to counts exactly when no two sets of one language
have a hit and none has more hits than the first set of its language has signatures; so
every scan is one where no language has two sets, and then a trace shows no language twice
and no count above the one in the report. -/
theorem scan_hitMap {sets : List SignatureSet} {t : SignatureTable}
    (h : ofSets sets = .ok t) :
    (∀ text l, MatchCount.totalOf (t.scan text) l ≤ SignatureSet.writtenFor sets l) ∧
    (∀ text, t.IsHitMap (t.scan text) ↔
      (t.sets.Pairwise fun s s' =>
        0 < Pattern.countHits s.patterns text.toArray →
          0 < Pattern.countHits s'.patterns text.toArray → s.language ≠ s'.language) ∧
      ∀ s ∈ t.sets, Pattern.countHits s.patterns text.toArray ≤ t.patternCount s.language) ∧
    ((sets.map (·.language)).Nodup →
      (∀ l, t.patternCount l = SignatureSet.writtenFor sets l) ∧
      ∀ text, t.IsHitMap (t.scan text) ∧
        ∀ conflicts, Classifier.ShowsHitMap ⟨t, conflicts⟩
          (Classifier.explain ⟨t, conflicts⟩ text)) := by
  refine ⟨totalOf_scan_le h, fun text => isHitMap_scan_iff, fun hdistinct => ?_⟩
  have hsets : (t.sets.map (·.language)).Nodup := by
    obtain rfl := ofSets_eq_ok h
    rw [List.map_map]
    exact hdistinct
  refine ⟨fun l => ?_, fun text => ?_⟩
  · rw [patternCount_eq_sum hsets, sum_length_eq_writtenFor h]
  · have hmap := isHitMap_of_nodup hsets text
    exact ⟨hmap, fun conflicts => Classifier.showsHitMap_explain hmap⟩

theorem ofSets_of_compile (sets : List SignatureSet)
    (h : ∀ s ∈ sets, (s.compile .standard).toBool = true) :
    ofSets sets = .ok ⟨sets.map SignatureSet.read⟩ :=
  ofSets_eq_ok_iff.2 ⟨rfl, fun s hs => SignatureSet.compile_of_toBool (h s hs)⟩

theorem scan_hitMap_arrow :
    ofSets Classifier.arrowSets = .ok ⟨Classifier.arrowSets.map SignatureSet.read⟩ ∧
    IsHitMap ⟨Classifier.arrowSets.map SignatureSet.read⟩
      (scan ⟨Classifier.arrowSets.map SignatureSet.read⟩
        "let f = (x: string) => \x7b x \x7d".toList) ∧
    Classifier.ShowsHitMap
      ⟨⟨Classifier.arrowSets.map SignatureSet.read⟩, ConflictTable.threeRuleTable⟩
      (Classifier.explain
        ⟨⟨Classifier.arrowSets.map SignatureSet.read⟩, ConflictTable.threeRuleTable⟩
        "let f = (x: string) => \x7b x \x7d".toList) := by
  have hbuilt := ofSets_of_compile Classifier.arrowSets (by decide +kernel)
  obtain ⟨-, -, hdistinct⟩ := scan_hitMap hbuilt
  obtain ⟨-, hmap⟩ := hdistinct (by decide)
  exact ⟨hbuilt, (hmap _).1, (hmap _).2 _⟩

def repeatedSets : List SignatureSet :=
  [⟨.go, ["a"]⟩, ⟨.go, ["b", "c"]⟩]

/-- The table is built, and a text with all three signatures lists the language twice, the
second time with more hits than the report counts signatures. -/
theorem scan_repeatedSets :
    ofSets repeatedSets = .ok ⟨repeatedSets.map SignatureSet.read⟩ ∧
    (Classifier.explain ⟨⟨repeatedSets.map SignatureSet.read⟩, ⟨[]⟩⟩
      "\x7babc\x7d".toList).matchCounts = [⟨.go, 1⟩, ⟨.go, 2⟩] ∧
    (Classifier.explain ⟨⟨repeatedSets.map SignatureSet.read⟩, ⟨[]⟩⟩
      "\x7babc\x7d".toList).candidates = [⟨.go, 1⟩, ⟨.go, 4⟩] ∧
    patternCount ⟨repeatedSets.map SignatureSet.read⟩ .go = 1 ∧
    ¬ IsHitMap ⟨repeatedSets.map SignatureSet.read⟩
      (scan ⟨repeatedSets.map SignatureSet.read⟩ "\x7babc\x7d".toList) := by
  have hscan : scan ⟨repeatedSets.map SignatureSet.read⟩ "\x7babc\x7d".toList =
      [⟨.go, 1⟩, ⟨.go, 2⟩] := by decide +kernel
  refine ⟨ofSets_of_compile repeatedSets ?_, ?_, ?_, ?_, fun h => ?_⟩
  · decide +kernel
  · decide +kernel
  · decide +kernel
  · decide +kernel
  · have hnodup := h.nodup
    rw [hscan] at hnodup
    revert hnodup
    decide

end SignatureTable

end ChatTriage
