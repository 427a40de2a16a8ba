import ChatTriage.Proofs.Classification
import ChatTriage.Proofs.Lead

/-!
# Order of candidates and signatures

Candidates with different languages may stand in any order: the same rules fire with the
same outcomes, and the same candidates are left. So the order of the signature sets of a
table, and that of the patterns inside a set, leaves the result of a classification as it
is.
-/

namespace ChatTriage

open Candidate

structure Resolution.SameLeft (res res' : Resolution) : Prop where
  remaining_perm : res.remaining.Perm res'.remaining
  winner_eq : winner res.remaining = winner res'.remaining
  tied_eq : tied res.remaining = tied res'.remaining

theorem Resolution.SameLeft.of_perm {res res' : Resolution}
    (hperm : res.remaining.Perm res'.remaining) : res.SameLeft res' :=
  ⟨hperm, winner_congr fun _ => hperm.mem_iff, tied_congr fun _ => hperm.mem_iff⟩

structure Resolution.SameUpToOrder (res res' : Resolution) : Prop
    extends res.SameLeft res' where
  applied_eq : res.applied = res'.applied

structure Trace.SameUpToOrder (tr tr' : Trace) : Prop where
  result_eq : tr.result = tr'.result
  gatePassed_eq : tr.gatePassed = tr'.gatePassed
  rules_eq : tr.rules = tr'.rules
  ambiguous_eq : tr.ambiguous = tr'.ambiguous
  matchCounts_perm : tr.matchCounts.Perm tr'.matchCounts
  candidates_perm : tr.candidates.Perm tr'.candidates
  remaining_perm : tr.remaining.Perm tr'.remaining

theorem Trace.SameUpToOrder.refl (tr : Trace) : tr.SameUpToOrder tr :=
  ⟨rfl, rfl, rfl, rfl, .refl _, .refl _, .refl _⟩

namespace CompiledRule

variable {cs ds : List Candidate} {kept kept' : List Language}

theorem fires_perm (r : CompiledRule) (hperm : cs.Perm ds) : r.fires cs = r.fires ds := by
  have hlanguages : (languages cs).Perm (languages ds) := hperm.map _
  rw [Bool.eq_iff_iff, fires_iff, fires_iff, hlanguages.mem_iff, hlanguages.mem_iff]

theorem survivors_perm (r : CompiledRule) (hcs : (languages cs).Nodup)
    (hperm : cs.Perm ds) (hkept : kept.Perm kept') :
    (r.survivors kept cs).Perm (r.survivors kept' ds) := by
  unfold survivors
  rw [find?_perm hcs hperm]
  exact (hperm.filter _).append (hkept.filterMap _)

end CompiledRule

namespace ConflictTable

variable {rules : List CompiledRule} {cs ds : List Candidate}

theorem resolveWith_perm (text : List Char) (hne : ∀ r ∈ rules, r.rule.a ≠ r.rule.b)
    (hcs : (languages cs).Nodup) (hperm : cs.Perm ds) :
    (resolveWith text rules cs).applied = (resolveWith text rules ds).applied ∧
      (resolveWith text rules cs).remaining.Perm
        (resolveWith text rules ds).remaining := by
  induction rules generalizing cs ds with
  | nil => exact ⟨rfl, hperm⟩
  | cons r rules ih =>
      obtain ⟨hr, hrules⟩ := List.forall_mem_cons.1 hne
      by_cases hf : r.fires cs = true
      · have hf' : r.fires ds = true := r.fires_perm hperm ▸ hf
        -- The survivors come in different orders again, and again no language repeats.
        have hnext := ih hrules
          (languages_nodup (CompiledRule.survivors_subperm text cs hr) hcs)
          (r.survivors_perm hcs hperm (.refl _))
        rw [resolveWith_fires hf, resolveWith_fires hf']
        exact ⟨congrArg (r.settle text :: ·) hnext.1, hnext.2⟩
      · have hf' : ¬ r.fires ds = true := r.fires_perm hperm ▸ hf
        rw [resolveWith_skips hf, resolveWith_skips hf']
        exact ih hrules hcs hperm

theorem resolve_perm {t : ConflictTable} (hne : ∀ r ∈ t.rules, r.rule.a ≠ r.rule.b)
    (hcs : (languages cs).Nodup) (hperm : cs.Perm ds) (text : List Char) :
    (t.resolve cs text).SameUpToOrder (t.resolve ds text) := by
  obtain ⟨happlied, hremaining⟩ := resolveWith_perm text hne hcs hperm
  exact ⟨.of_perm hremaining, happlied⟩

end ConflictTable

/-! ## Signatures in another order -/

/-- The sets in another order, each of them with its patterns in any order. -/
def SignatureSet.Reordered (sets sets' : List SignatureSet) : Prop :=
  ∃ mid, sets.Perm mid ∧
    List.Forall₂ (fun s s' => s.language = s'.language ∧ s.patterns.Perm s'.patterns)
      mid sets'

theorem SignatureSet.Reordered.of_perm {sets sets' : List SignatureSet}
    (hperm : sets.Perm sets') : Reordered sets sets' :=
  ⟨sets', hperm, List.forall₂_same.2 fun _ _ => ⟨rfl, .refl _⟩⟩

def SignatureSet.count (s : SignatureSet) (text : List Char) : MatchCount :=
  ⟨s.language, Pattern.countHits (Pattern.readList s.patterns) text.toArray⟩

theorem SignatureSet.count_perm {s s' : SignatureSet} (hlanguage : s.language = s'.language)
    (hperm : s.patterns.Perm s'.patterns) (text : List Char) :
    s.count text = s'.count text := by
  have hhits : Pattern.countHits (Pattern.readList s.patterns) text.toArray =
      Pattern.countHits (Pattern.readList s'.patterns) text.toArray :=
    (hperm.filterMap _).countP_eq _
  rw [count, count, hlanguage, hhits]

namespace SignatureTable

variable {sets sets' : List SignatureSet} {t : SignatureTable}

theorem ofSets_perm (hperm : sets.Perm sets') (h : ofSets sets = .ok t) :
    ∃ t', ofSets sets' = .ok t' := by
  obtain ⟨-, hcompile⟩ := ofSets_eq_ok_iff.1 h
  exact ⟨_, ofSets_eq_ok_iff.2 ⟨rfl, fun s hs => hcompile s (hperm.mem_iff.2 hs)⟩⟩

theorem scan_read (sets : List SignatureSet) (text : List Char) :
    scan ⟨sets.map SignatureSet.read⟩ text =
      (sets.map (·.count text)).filter fun m => 0 < m.matched := by
  rw [scan, List.map_map]
  rfl

theorem scan_perm (hsets : SignatureSet.Reordered sets sets') (text : List Char) :
    (scan ⟨sets.map SignatureSet.read⟩ text).Perm
      (scan ⟨sets'.map SignatureSet.read⟩ text) := by
  obtain ⟨mid, hperm, hmid⟩ := hsets
  have hcounts : mid.map (·.count text) = sets'.map (·.count text) := by
    rw [← List.forall₂_eq_eq_eq, List.forall₂_map_left_iff, List.forall₂_map_right_iff]
    exact hmid.imp fun s s' h => SignatureSet.count_perm h.1 h.2 text
  rw [scan_read, scan_read, ← hcounts]
  exact (hperm.map _).filter _

theorem scan_languages_nodup (hdistinct : (t.sets.map (·.language)).Nodup)
    (text : List Char) : ((t.scan text).map (·.language)).Nodup := by
  have hsub : (t.scan text).Sublist (t.sets.map fun s =>
      ⟨s.language, Pattern.countHits s.patterns text.toArray⟩) := List.filter_sublist
  have hall := hsub.map (·.language)
  rw [List.map_map] at hall
  exact hall.nodup hdistinct

end SignatureTable

namespace Classifier

variable {k k' : Classifier} {text : List Char}

theorem resolution_perm (hconflicts : k.conflicts = k'.conflicts)
    (hne : ∀ r ∈ k.conflicts.rules, r.rule.a ≠ r.rule.b)
    (hdistinct : (k.signatures.sets.map (·.language)).Nodup)
    (hcandidates : (ofMatches (k.signatures.scan text)).Perm
      (ofMatches (k'.signatures.scan text))) :
    (k.resolution text).SameUpToOrder (k'.resolution text) := by
  have hnodup : (languages (ofMatches (k.signatures.scan text))).Nodup := by
    rw [languages_ofMatches_scan]
    exact SignatureTable.scan_languages_nodup hdistinct text
  unfold resolution
  rw [← hconflicts]
  exact ConflictTable.resolve_perm hne hnodup hcandidates text

/-- Classifiers with the same rules whose scans list the same hits explain a text alike. -/
theorem explain_perm (hconflicts : k.conflicts = k'.conflicts)
    (hne : ∀ r ∈ k.conflicts.rules, r.rule.a ≠ r.rule.b)
    (hdistinct : (k.signatures.sets.map (·.language)).Nodup)
    (hscan : (k.signatures.scan text).Perm (k'.signatures.scan text)) :
    (k.explain text).SameUpToOrder (k'.explain text) := by
  by_cases hgate : CodeShape.PassesGate text
  · by_cases hnone : k.signatures.scan text = []
    · have hnone' : k'.signatures.scan text = [] := List.nil_perm.1 (hnone ▸ hscan)
      rw [explain_of_no_hits hgate hnone, explain_of_no_hits hgate hnone']
      exact .refl _
    · have hsome : k'.signatures.scan text ≠ [] := fun h =>
        hnone (List.perm_nil.1 (h ▸ hscan))
      have hcandidates : (ofMatches (k.signatures.scan text)).Perm
          (ofMatches (k'.signatures.scan text)) := (hscan.filter _).map _
      have hsame := resolution_perm hconflicts hne hdistinct hcandidates
      obtain ⟨w, hw, htrace⟩ := exists_winner_of_hits hnone
      obtain ⟨w', hw', htrace'⟩ := exists_winner_of_hits hsome
      obtain rfl : w = w' := by
        rw [hsame.winner_eq, hw'] at hw
        exact (Option.some.inj hw).symm
      rw [explain_of_hits hgate hnone, explain_of_hits hgate hsome, htrace, htrace']
      exact ⟨rfl, rfl, hsame.applied_eq, hsame.tied_eq, hscan, hcandidates,
        hsame.remaining_perm⟩
  · rw [explain_of_rejected hgate, explain_of_rejected hgate]
    exact .refl _

theorem explain_ofSets_perm {conflicts : ConflictTable}
    (hne : ∀ r ∈ conflicts.rules, r.rule.a ≠ r.rule.b) {sets sets' : List SignatureSet}
    {signatures signatures' : SignatureTable} (hdistinct : (sets.map (·.language)).Nodup)
    (hsets : SignatureSet.Reordered sets sets')
    (h : SignatureTable.ofSets sets = .ok signatures)
    (h' : SignatureTable.ofSets sets' = .ok signatures') (text : List Char) :
    (explain ⟨signatures, conflicts⟩ text).SameUpToOrder
      (explain ⟨signatures', conflicts⟩ text) := by
  obtain rfl := SignatureTable.ofSets_eq_ok h
  obtain rfl := SignatureTable.ofSets_eq_ok h'
  refine explain_perm rfl hne ?_ (SignatureTable.scan_perm hsets text)
  rw [List.map_map]
  exact hdistinct

/-- Neither the order of different candidates nor that of signatures decides anything:
what is found, which rules fire and who wins is the same, and lists of candidates and
hits come in another order at most. A table with its sets in another order is built like
the first one. -/
theorem explain_reordered {compiler : PatternCompiler} {source : List ConflictRule}
    {conflicts : ConflictTable}
    (ht : ConflictTable.ofRulesWith compiler source = .ok conflicts) :
    (∀ cs ds text, (languages cs).Nodup → cs.Perm ds →
      (conflicts.resolve cs text).SameUpToOrder (conflicts.resolve ds text)) ∧
    (∀ sets sets' signatures, (sets.map (·.language)).Nodup → sets.Perm sets' →
      SignatureTable.ofSets sets = .ok signatures →
      ∃ signatures', SignatureTable.ofSets sets' = .ok signatures' ∧
        ∀ text, (explain ⟨signatures, conflicts⟩ text).SameUpToOrder
          (explain ⟨signatures', conflicts⟩ text)) ∧
    (∀ sets sets' signatures signatures', (sets.map (·.language)).Nodup →
      SignatureSet.Reordered sets sets' →
      SignatureTable.ofSets sets = .ok signatures →
      SignatureTable.ofSets sets' = .ok signatures' →
      ∀ text, (explain ⟨signatures, conflicts⟩ text).SameUpToOrder
        (explain ⟨signatures', conflicts⟩ text)) := by
  have hne := (ConflictTable.valid_of_ofRulesWith ht).sides_ne
  refine ⟨fun cs ds text hcs hperm => ConflictTable.resolve_perm hne hcs hperm text, ?_,
    fun sets sets' signatures signatures' => explain_ofSets_perm hne⟩
  intro sets sets' signatures hdistinct hperm h
  obtain ⟨signatures', h'⟩ := SignatureTable.ofSets_perm hperm h
  exact ⟨signatures', h', explain_ofSets_perm hne hdistinct (.of_perm hperm) h h'⟩

def arrowSets : List SignatureSet :=
  [⟨.javaScript, ["=>", "let "]⟩, ⟨.typeScript, [": string"]⟩]

def arrowSetsReordered : List SignatureSet :=
  [⟨.typeScript, [": string"]⟩, ⟨.javaScript, ["let ", "=>"]⟩]

/-- The tie between TypeScript and Java stays open, and leaves the two in the order of the
rule. In the other text both sets have hits, and are found in the order of the sets. -/
theorem explain_reordered_arrow :
    (ConflictTable.threeRuleTable.resolve
        [⟨.java, 4⟩, ⟨.css, 1⟩, ⟨.typeScript, 4⟩] "x".toList).SameUpToOrder
      (ConflictTable.threeRuleTable.resolve
        [⟨.typeScript, 4⟩, ⟨.java, 4⟩, ⟨.css, 1⟩] "x".toList) ∧
    (∃ signatures signatures', SignatureTable.ofSets arrowSets = .ok signatures ∧
      SignatureTable.ofSets arrowSetsReordered = .ok signatures' ∧
      (explain ⟨signatures, ConflictTable.threeRuleTable⟩
          "let f = (x: string) => { x }".toList).SameUpToOrder
        (explain ⟨signatures', ConflictTable.threeRuleTable⟩
          "let f = (x: string) => { x }".toList)) ∧
    (∃ signatures, SignatureTable.ofSets arrowSets.reverse = .ok signatures) := by
  have hcompile : ∀ s ∈ arrowSets ++ arrowSetsReordered, (s.compile .standard).toBool = true := by
    decide +kernel
  have hsets : SignatureTable.ofSets arrowSets =
      .ok ⟨arrowSets.map SignatureSet.read⟩ :=
    SignatureTable.ofSets_eq_ok_iff.2 ⟨rfl, fun s hs =>
      SignatureSet.compile_of_toBool (hcompile s (List.mem_append_left _ hs))⟩
  have hsets' : SignatureTable.ofSets arrowSetsReordered =
      .ok ⟨arrowSetsReordered.map SignatureSet.read⟩ :=
    SignatureTable.ofSets_eq_ok_iff.2 ⟨rfl, fun s hs =>
      SignatureSet.compile_of_toBool (hcompile s (List.mem_append_right _ hs))⟩
  have hreordered : SignatureSet.Reordered arrowSets arrowSetsReordered :=
    ⟨arrowSets.reverse, (List.reverse_perm _).symm,
      .cons ⟨rfl, .refl _⟩ (.cons ⟨rfl, .swap _ _ _⟩ .nil)⟩
  obtain ⟨hresolve, hpermuted, hexplain⟩ :=
    explain_reordered ConflictTable.ofRules_threeRules
  obtain ⟨signatures, hbuilt, -⟩ :=
    hpermuted _ arrowSets.reverse _ (by decide) (List.reverse_perm _).symm hsets
  exact ⟨hresolve _ _ _ (by decide) (by decide),
    ⟨_, _, hsets, hsets', hexplain _ _ _ _ (by decide) hreordered hsets hsets' _⟩,
    signatures, hbuilt⟩

end Classifier

end ChatTriage
