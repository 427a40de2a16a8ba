import ChatTriage.Proofs.Reordering

/-!
# Rules with their sides exchanged

A rule is about an unordered pair. To exchange its sides, each with its weight and its
markers, exchanges the sides of its outcomes and nothing else. So a table in which some
rules are turned around is as valid, fires the same rules and leaves the same candidates.
-/

namespace ChatTriage

open Candidate

/-- The outcome with its sides exchanged. The same languages are kept. -/
def RuleOutcome.flip (o : RuleOutcome) : RuleOutcome :=
  ⟨o.b, o.a, o.markersB, o.markersA, o.verdict, o.kept.reverse⟩

namespace ConflictRule

variable {chosen : ConflictRule → Bool} {r : ConflictRule}

def flip (r : ConflictRule) : ConflictRule :=
  ⟨r.b, r.weightB, r.markersB, r.a, r.weightA, r.markersA⟩

/-- The rule with its sides exchanged, if it is one of those chosen. No rule stands twice
in a table, so that any of its rules may be chosen without the others. -/
def flipIf (chosen : ConflictRule → Bool) (r : ConflictRule) : ConflictRule :=
  if chosen r then r.flip else r

@[simp] theorem isAbout_flip (r : ConflictRule) (x y : Language) :
    r.flip.isAbout x y = r.isAbout x y := by
  rw [Bool.eq_iff_iff, isAbout_iff, isAbout_iff]
  constructor <;> rintro (⟨hx, hy⟩ | ⟨hx, hy⟩) <;> simp_all [flip]

theorem isAbout_flipIf (chosen : ConflictRule → Bool) (r s : ConflictRule) :
    (r.flipIf chosen).isAbout (s.flipIf chosen).a (s.flipIf chosen).b =
      r.isAbout s.a s.b := by
  have hr : ∀ x y, (r.flipIf chosen).isAbout x y = r.isAbout x y := by
    intro x y
    unfold flipIf
    split_ifs <;> simp
  rw [hr]
  unfold flipIf
  split_ifs
  · exact r.isAbout_symm s.b s.a
  · rfl

theorem flipIf_sides_ne (h : r.a ≠ r.b) : (r.flipIf chosen).a ≠ (r.flipIf chosen).b := by
  unfold flipIf
  split_ifs
  · exact h.symm
  · exact h

theorem compile_flip {k : PatternCompiler} (h : r.compile k = .ok (r.compiled k)) :
    r.flip.compile k = .ok (r.flip.compiled k) :=
  compile_iff.2 (compile_iff.1 h).symm

theorem compile_flipIf {k : PatternCompiler} (h : r.compile k = .ok (r.compiled k)) :
    (r.flipIf chosen).compile k = .ok ((r.flipIf chosen).compiled k) := by
  unfold flipIf
  split_ifs
  · exact compile_flip h
  · exact h

end ConflictRule

namespace CompiledRule

variable {cs ds : List Candidate}

def flip (r : CompiledRule) : CompiledRule :=
  ⟨r.rule.flip, r.markersB, r.markersA⟩

def flipIf (chosen : ConflictRule → Bool) (r : CompiledRule) : CompiledRule :=
  if chosen r.rule then r.flip else r

theorem flipIf_compiled (k : PatternCompiler) (chosen : ConflictRule → Bool)
    (r : ConflictRule) : (r.flipIf chosen).compiled k = (r.compiled k).flipIf chosen := by
  unfold ConflictRule.flipIf flipIf
  exact apply_ite (ConflictRule.compiled k) (chosen r = true) r.flip r

theorem settle_flip (r : CompiledRule) (text : List Char) :
    r.flip.settle text = (r.settle text).flip := by
  unfold settle RuleOutcome.flip flip ConflictRule.flip
  generalize Pattern.countHits r.markersA text.toArray = hitsA
  generalize Pattern.countHits r.markersB text.toArray = hitsB
  by_cases h1 : hitsB < hitsA
  · have h2 : ¬ hitsA < hitsB := by omega
    simp [h1, h2]
  by_cases h2 : hitsA < hitsB
  · simp [h1, h2]
  by_cases h3 : r.rule.weightB < r.rule.weightA
  · have h4 : ¬ r.rule.weightA < r.rule.weightB := UInt32.lt_asymm h3
    simp [h1, h2, h3, h4]
  by_cases h4 : r.rule.weightA < r.rule.weightB <;> simp [h1, h2, h3, h4]

theorem settle_flipIf (chosen : ConflictRule → Bool) (r : CompiledRule) (text : List Char) :
    (r.flipIf chosen).settle text =
      if chosen r.rule then (r.settle text).flip else r.settle text := by
  unfold flipIf
  split_ifs
  · exact r.settle_flip text
  · rfl

theorem fires_flip (r : CompiledRule) (cs : List Candidate) : r.flip.fires cs = r.fires cs :=
  Bool.and_comm _ _

theorem survivors_flip (r : CompiledRule) (kept : List Language) (cs : List Candidate) :
    r.flip.survivors kept cs = r.survivors kept cs := by
  unfold survivors
  congr 2
  funext c
  exact Bool.and_comm _ _

theorem survivors_flipIf (chosen : ConflictRule → Bool) (r : CompiledRule)
    (text : List Char) (hcs : (languages cs).Nodup) (hperm : cs.Perm ds) :
    (r.survivors (r.settle text).kept cs).Perm
      ((r.flipIf chosen).survivors ((r.flipIf chosen).settle text).kept ds) := by
  unfold flipIf
  split_ifs
  · rw [survivors_flip, settle_flip]
    exact r.survivors_perm hcs hperm (List.reverse_perm _).symm
  · exact r.survivors_perm hcs hperm (.refl _)

theorem fires_flipIf (chosen : ConflictRule → Bool) (r : CompiledRule)
    (hperm : cs.Perm ds) : (r.flipIf chosen).fires ds = r.fires cs := by
  rw [r.fires_perm hperm]
  unfold flipIf
  split_ifs
  · exact r.fires_flip ds
  · rfl

end CompiledRule

/-! ## A table -/

structure FlippedResolution (chosen : ConflictRule → Bool) (rules : List CompiledRule)
    (text : List Char) (res res' : Resolution) : Prop extends res.SameLeft res' where
  same_rules_fire : ∃ fired : List CompiledRule, fired.Sublist rules ∧
    res.applied = fired.map (·.settle text) ∧
    res'.applied = fired.map fun r =>
      if chosen r.rule then (r.settle text).flip else r.settle text

namespace ConflictTable

variable {rules : List CompiledRule} {cs ds : List Candidate}

theorem resolveWith_flipIf (chosen : ConflictRule → Bool) (text : List Char)
    (hne : ∀ r ∈ rules, r.rule.a ≠ r.rule.b) (hcs : (languages cs).Nodup)
    (hperm : cs.Perm ds) :
    (∃ fired : List CompiledRule, fired.Sublist rules ∧
      (resolveWith text rules cs).applied = fired.map (·.settle text) ∧
      (resolveWith text (rules.map (·.flipIf chosen)) ds).applied =
        fired.map fun r => (r.flipIf chosen).settle text) ∧
    (resolveWith text rules cs).remaining.Perm
      (resolveWith text (rules.map (·.flipIf chosen)) ds).remaining := by
  induction rules generalizing cs ds with
  | nil => exact ⟨⟨[], .refl _, rfl, rfl⟩, hperm⟩
  | cons r rules ih =>
      obtain ⟨hr, hrules⟩ := List.forall_mem_cons.1 hne
      rw [List.map_cons]
      have hfires := r.fires_flipIf chosen hperm
      by_cases hf : r.fires cs = true
      · -- What is left after an open tie comes in two orders from here on.
        obtain ⟨⟨fired, hsub, happlied, happlied'⟩, hremaining⟩ := ih hrules
          (languages_nodup (CompiledRule.survivors_subperm text cs hr) hcs)
          (r.survivors_flipIf chosen text hcs hperm)
        rw [resolveWith_fires hf, resolveWith_fires (hfires.trans hf)]
        refine ⟨⟨r :: fired, hsub.cons_cons r, ?_, ?_⟩, hremaining⟩
        · rw [happlied, List.map_cons]
        · rw [happlied', List.map_cons]
      · obtain ⟨⟨fired, hsub, happlied, happlied'⟩, hremaining⟩ := ih hrules hcs hperm
        rw [resolveWith_skips hf, resolveWith_skips (hfires ▸ hf)]
        exact ⟨⟨fired, hsub.cons r, happlied, happlied'⟩, hremaining⟩

theorem validRules_flipIf (chosen : ConflictRule → Bool) (hvalid : ValidRules rules) :
    ValidRules (rules.map (·.flipIf chosen)) := by
  have hrule : ∀ r : CompiledRule, (r.flipIf chosen).rule = r.rule.flipIf chosen := fun r =>
    apply_ite CompiledRule.rule (chosen r.rule = true) r.flip r
  refine ⟨?_, List.pairwise_map.2 (hvalid.pairs_ne.imp fun {r s} habout => ?_)⟩
  · rw [List.forall_mem_map]
    intro r hr
    rw [hrule]
    exact ConflictRule.flipIf_sides_ne (hvalid.sides_ne r hr)
  · rw [hrule, hrule, ConflictRule.isAbout_flipIf]
    exact habout

theorem ofRulesWith_flipIf {k : PatternCompiler} (chosen : ConflictRule → Bool)
    {source : List ConflictRule} {t : ConflictTable} (ht : ofRulesWith k source = .ok t) :
    ofRulesWith k (source.map (·.flipIf chosen)) = .ok ⟨t.rules.map (·.flipIf chosen)⟩ := by
  obtain ⟨rfl, hvalid, hcompile⟩ := ofRulesWith_eq_ok_iff.1 ht
  have hrules : (source.map (ConflictRule.compiled k)).map (·.flipIf chosen) =
      (source.map (·.flipIf chosen)).map (ConflictRule.compiled k) := by
    simp only [List.map_map, Function.comp_def, CompiledRule.flipIf_compiled]
  refine ofRulesWith_eq_ok_iff.2 ⟨congrArg ConflictTable.mk hrules, ?_, ?_⟩
  · exact validRules_flipIf chosen hvalid
  · rw [List.forall_mem_map]
    exact fun r hr => ConflictRule.compile_flipIf (hcompile r hr)

/-- Any rules of a table may be turned around: the table is built all the same, and with
different candidates its resolutions differ only in the sides of the outcomes of these
rules and in the order of who is left. -/
theorem resolve_flipIf {k : PatternCompiler} {source : List ConflictRule} {t : ConflictTable}
    (ht : ofRulesWith k source = .ok t) (chosen : ConflictRule → Bool) :
    ∃ t', ofRulesWith k (source.map (·.flipIf chosen)) = .ok t' ∧
      ∀ cs text, (languages cs).Nodup →
        FlippedResolution chosen t.rules text (t.resolve cs text) (t'.resolve cs text) := by
  refine ⟨_, ofRulesWith_flipIf chosen ht, fun cs text hcs => ?_⟩
  obtain ⟨⟨fired, hsub, happlied, happlied'⟩, hperm⟩ :=
    resolveWith_flipIf chosen text (valid_of_ofRulesWith ht).sides_ne hcs (.refl cs)
  refine ⟨.of_perm hperm, fired, hsub, happlied, ?_⟩
  simp only [← CompiledRule.settle_flipIf]
  exact happlied'

/-- The rule that leaves the tie between TypeScript and Java open is turned around, so that
the two are left in the other order; the rule that Java then loses to Go by is as well. -/
theorem resolve_flipIf_threeRules :
    ∃ t', ofRules (threeRules.map (·.flipIf (·.a != .javaScript))) = .ok t' ∧
      FlippedResolution (·.a != .javaScript) threeRuleTable.rules "x".toList
        (threeRuleTable.resolve
          [⟨.go, 2⟩, ⟨.java, 4⟩, ⟨.css, 1⟩, ⟨.typeScript, 4⟩] "x".toList)
        (t'.resolve [⟨.go, 2⟩, ⟨.java, 4⟩, ⟨.css, 1⟩, ⟨.typeScript, 4⟩] "x".toList) := by
  obtain ⟨t', ht', hflipped⟩ := resolve_flipIf ofRules_threeRules (·.a != .javaScript)
  exact ⟨t', ht', hflipped _ _ (by decide)⟩

end ConflictTable

end ChatTriage
