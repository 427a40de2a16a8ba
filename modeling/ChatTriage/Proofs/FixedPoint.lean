import ChatTriage.Proofs.Classification

/-!
# Nothing is left to decide

Where both languages of a rule are left, the rule has fired and decided nothing. So the
candidates left are at rest: a second resolution throws nobody out, and if no rule leaves
a tie open, it does not even change their order. The catalog has no such rule.
-/

namespace ChatTriage

open Candidate

def ConflictTable.ConflictFree (t : ConflictTable) (ls : List Language) : Prop :=
  ∀ r ∈ t.rules, r.rule.a ∈ ls → r.rule.b ∉ ls

/-- A rule that fires on the candidates decides nothing, and they hold each of its
languages only once. -/
def AtRest (rules : List CompiledRule) (text : List Char) (cs : List Candidate) : Prop :=
  ∀ r ∈ rules, r.fires cs = true →
    (r.settle text).verdict = .unresolved ∧
      ∀ l, l = r.rule.a ∨ l = r.rule.b → (languages cs).count l ≤ 1

theorem AtRest.perm {rules : List CompiledRule} {text : List Char} {cs ds : List Candidate}
    (h : AtRest rules text cs) (hperm : cs.Perm ds) : AtRest rules text ds := by
  have hlanguages : (languages cs).Perm (languages ds) := hperm.map _
  intro r hr hf
  rw [CompiledRule.fires_iff, ← hlanguages.mem_iff, ← hlanguages.mem_iff,
    ← CompiledRule.fires_iff] at hf
  obtain ⟨hverdict, hcount⟩ := h r hr hf
  exact ⟨hverdict, fun l hl => hlanguages.count_eq l ▸ hcount l hl⟩

namespace CompiledRule

variable {r : CompiledRule} {text : List Char} {cs : List Candidate} {l : Language}

theorem count_survivors_le_one (text : List Char) (cs : List Candidate)
    (hne : r.rule.a ≠ r.rule.b) (hl : l = r.rule.a ∨ l = r.rule.b) :
    (languages (r.survivors (r.settle text).kept cs)).count l ≤ 1 := by
  have hkept : ((r.settle text).kept.filter (· ∈ languages cs)).Nodup :=
    ((kept_sublist r text).nodup (by simpa using hne)).filter _
  have hothers : l ∉ (languages cs).filter fun l => l != r.rule.a && l != r.rule.b := by
    intro h
    have hnot := (List.mem_filter.1 h).2
    rcases hl with rfl | rfl <;> simp at hnot
  rw [languages_survivors, List.count_append, List.count_eq_zero.2 hothers, Nat.zero_add]
  exact List.nodup_iff_count_le_one.1 hkept l

private theorem length_named_le {ls : List Language} {x y : Language}
    (honce : ∀ l, l = x ∨ l = y → ls.count l ≤ 1) :
    (ls.filter fun l => !(l != x && l != y)).length ≤
      ([x, y].filter (· ∈ ls)).length := by
  have hnodup : (ls.filter fun l => !(l != x && l != y)).Nodup := by
    refine List.nodup_iff_count_le_one.2 fun l => ?_
    by_cases hl : l = x ∨ l = y
    · exact Nat.le_trans (List.filter_sublist.count_le l) (honce l hl)
    · have hother : l ∉ ls.filter fun l => !(l != x && l != y) := by
        simp [not_or.1 hl]
      rw [List.count_eq_zero.2 hother]
      exact Nat.zero_le 1
  have hsub : (ls.filter fun l => !(l != x && l != y)) ⊆ [x, y].filter (· ∈ ls) := by
    intro l hl
    obtain ⟨hmem, hnamed⟩ := List.mem_filter.1 hl
    refine List.mem_filter.2 ⟨?_, by simpa using hmem⟩
    by_contra hother
    simp_all
  exact (hnodup.subperm hsub).length_le

/-- A rule that decides nothing only moves its two candidates to the end. -/
theorem survivors_perm_of_unresolved (hne : r.rule.a ≠ r.rule.b)
    (h : (r.settle text).verdict = .unresolved)
    (honce : ∀ l, l = r.rule.a ∨ l = r.rule.b → (languages cs).count l ≤ 1) :
    (r.survivors (r.settle text).kept cs).Perm cs := by
  refine (survivors_subperm text cs hne).perm_of_length_le ?_
  have hnamed := length_named_le honce
  have hall := (List.filter_append_perm
    (fun l => l != r.rule.a && l != r.rule.b) (languages cs)).length_eq
  rw [List.length_append, length_languages] at hall
  rw [← length_languages (r.survivors _ cs), languages_survivors, List.length_append,
    (even_of_unresolved h).1]
  omega

end CompiledRule

namespace ConflictTable

variable {text : List Char} {rules : List CompiledRule} {cs : List Candidate}
  {r : CompiledRule}

theorem count_remaining_le_one (hne : ∀ r ∈ rules, r.rule.a ≠ r.rule.b) {o : RuleOutcome}
    (ho : o ∈ (resolveWith text rules cs).applied) {l : Language} (hl : l = o.a ∨ l = o.b) :
    (languages (resolveWith text rules cs).remaining).count l ≤ 1 := by
  induction rules generalizing cs with
  | nil => simp at ho
  | cons r rules ih =>
      obtain ⟨hr, hrules⟩ := List.forall_mem_cons.1 hne
      by_cases hf : r.fires cs = true
      · rw [resolveWith_fires hf] at ho ⊢
        rcases List.mem_cons.1 ho with rfl | ho
        · have hsub := remaining_subperm text (r.survivors (r.settle text).kept cs) hrules
          exact Nat.le_trans ((languages_subperm hsub).count_le l)
            (CompiledRule.count_survivors_le_one text cs hr hl)
        · exact ih hrules ho
      · rw [resolveWith_skips hf] at ho ⊢
        exact ih hrules ho

theorem unresolved_of_both_left (hne : ∀ r ∈ rules, r.rule.a ≠ r.rule.b) (hr : r ∈ rules)
    (ha : r.rule.a ∈ languages (resolveWith text rules cs).remaining)
    (hb : r.rule.b ∈ languages (resolveWith text rules cs).remaining) :
    r.settle text ∈ (resolveWith text rules cs).applied ∧
      (r.settle text).verdict = .unresolved := by
  have hfired : r.settle text ∈ (resolveWith text rules cs).applied := by
    obtain ⟨before, after, rfl⟩ := List.append_of_mem hr
    rw [resolveWith_append] at ha hb ⊢
    have hf := CompiledRule.fires_iff.2
      ⟨languages_remaining_subset ha, languages_remaining_subset hb⟩
    rw [resolveWith_fires hf]
    simp
  refine ⟨hfired, ?_⟩
  by_contra hverdict
  obtain ⟨l, hl⟩ := CompiledRule.losers_of_decisive (hne r hr) hverdict
  have hloser : l ∈ (r.settle text).losers := by simp [hl]
  have hgone : l ∉ languages (resolveWith text rules cs).remaining := fun h =>
    (mem_languages_remaining.1 h).2 _ hfired hloser
  rcases (RuleOutcome.mem_losers.1 hloser).1 with rfl | rfl
  · exact hgone ha
  · exact hgone hb

theorem atRest_remaining (text : List Char) (cs : List Candidate)
    (hne : ∀ r ∈ rules, r.rule.a ≠ r.rule.b) :
    AtRest rules text (resolveWith text rules cs).remaining := by
  intro r hr hf
  obtain ⟨ha, hb⟩ := CompiledRule.fires_iff.1 hf
  obtain ⟨hfired, hverdict⟩ := unresolved_of_both_left hne hr ha hb
  exact ⟨hverdict, fun l hl => count_remaining_le_one hne hfired hl⟩

theorem resolveWith_of_atRest (hne : ∀ r ∈ rules, r.rule.a ≠ r.rule.b)
    (hrest : AtRest rules text cs) :
    (resolveWith text rules cs).remaining.Perm cs ∧
      ∀ o ∈ (resolveWith text rules cs).applied, o.verdict = .unresolved := by
  induction rules generalizing cs with
  | nil => simp
  | cons r rules ih =>
      obtain ⟨hr, hrules⟩ := List.forall_mem_cons.1 hne
      have htail : AtRest rules text cs := fun s hs => hrest s (List.mem_cons_of_mem r hs)
      by_cases hf : r.fires cs = true
      · obtain ⟨hverdict, honce⟩ := hrest r (by simp) hf
        have hstep := CompiledRule.survivors_perm_of_unresolved hr hverdict honce
        -- The other rules meet the same candidates in another order.
        obtain ⟨hperm, happlied⟩ := ih hrules (htail.perm hstep.symm)
        rw [resolveWith_fires hf]
        exact ⟨hperm.trans hstep, List.forall_mem_cons.2 ⟨hverdict, happlied⟩⟩
      · rw [resolveWith_skips hf]
        exact ih hrules htail

theorem conflictFree_remaining {t : ConflictTable}
    (hne : ∀ r ∈ t.rules, r.rule.a ≠ r.rule.b)
    (hweights : ∀ r ∈ t.rules, r.rule.weightA ≠ r.rule.weightB) :
    t.ConflictFree (languages (t.resolve cs text).remaining) := by
  intro r hr ha hb
  obtain ⟨-, hverdict⟩ := unresolved_of_both_left hne hr ha hb
  exact hweights r hr (CompiledRule.even_of_unresolved hverdict).2.2

theorem resolved_of_weights_ne {t : ConflictTable}
    (hweights : ∀ r ∈ t.rules, r.rule.weightA ≠ r.rule.weightB) {o : RuleOutcome}
    (ho : o ∈ (t.resolve cs text).applied) : o.verdict ≠ .unresolved := by
  obtain ⟨r, hr, rfl⟩ := exists_rule_of_applied ho
  exact fun hverdict => hweights r hr (CompiledRule.even_of_unresolved hverdict).2.2

end ConflictTable

/-! ## Fixed points -/

/-- A resolution that a second one of what it leaves confirms. -/
structure FixedPoint (t : ConflictTable) (text : List Char) (res : Resolution) : Prop where
  /-- A pair that is left whole was tied in markers and in weights. -/
  open_pair : ∀ r ∈ t.rules,
    r.rule.a ∈ languages res.remaining → r.rule.b ∈ languages res.remaining →
      r.settle text ∈ res.applied ∧ (r.settle text).verdict = .unresolved ∧
        (r.settle text).markersA = (r.settle text).markersB ∧
          r.rule.weightA = r.rule.weightB
  again_unresolved : ∀ o ∈ (t.resolve res.remaining text).applied, o.verdict = .unresolved
  again_perm : (t.resolve res.remaining text).remaining.Perm res.remaining
  again_eq : (∀ r ∈ t.rules, r.rule.weightA ≠ r.rule.weightB) →
    t.resolve res.remaining text = ⟨res.remaining, []⟩

namespace ConflictTable

theorem fixedPoint_of_valid {t : ConflictTable} (hvalid : ValidRules t.rules)
    (cs : List Candidate) (text : List Char) : FixedPoint t text (t.resolve cs text) := by
  have hne := hvalid.sides_ne
  obtain ⟨hperm, hunresolved⟩ :=
    resolveWith_of_atRest hne (atRest_remaining text cs hne)
  refine ⟨fun r hr ha hb => ?_, hunresolved, hperm, fun hweights => ?_⟩
  · obtain ⟨hfired, hverdict⟩ := unresolved_of_both_left hne hr ha hb
    obtain ⟨-, hmarkers, hweights⟩ := CompiledRule.even_of_unresolved hverdict
    exact ⟨hfired, hverdict, hmarkers, hweights⟩
  · refine resolveWith_of_idle fun r hr hf => ?_
    obtain ⟨ha, hb⟩ := CompiledRule.fires_iff.1 hf
    exact conflictFree_remaining hne hweights r hr ha hb

/-- A second resolution of what is left decides nothing new. The catalog leaves no two
languages that share a rule, and so none of them are reported as tied. -/
theorem resolve_fixedPoint :
    (∀ k source t, ofRulesWith k source = .ok t →
      ∀ cs text, FixedPoint t text (t.resolve cs text)) ∧
    (∀ cs text, FixedPoint builtin text (builtin.resolve cs text) ∧
      builtin.ConflictFree (languages (builtin.resolve cs text).remaining) ∧
      ∀ o ∈ (builtin.resolve cs text).applied, o.verdict ≠ .unresolved) ∧
    (∀ text, builtin.ConflictFree (Classifier.builtin.explain text).ambiguous) := by
  have hfree : ∀ cs text,
      builtin.ConflictFree (languages (builtin.resolve cs text).remaining) := fun cs text =>
    conflictFree_remaining builtin_valid.sides_ne fun r => builtin_weights_ne
  refine ⟨fun k source t ht => fixedPoint_of_valid (valid_of_ofRulesWith ht),
    fun cs text => ?_, fun text r hr ha hb => ?_⟩
  · exact ⟨fixedPoint_of_valid builtin_valid cs text, hfree cs text,
      fun o => resolved_of_weights_ne fun r => builtin_weights_ne⟩
  · have hsub := Classifier.builtin.ambiguous_subset text
    exact hfree _ text r hr (hsub ha) (hsub hb)

/-- Two languages that tie in everything are both left, and a second look keeps them. -/
theorem resolve_fixedPoint_threeRules :
    FixedPoint threeRuleTable "enum x throws y".toList
      (threeRuleTable.resolve [⟨.javaScript, 1⟩, ⟨.java, 4⟩, ⟨.typeScript, 2⟩, ⟨.java, 1⟩]
        "enum x throws y".toList) :=
  resolve_fixedPoint.1 _ _ _ ofRules_threeRules _ _

end ConflictTable

end ChatTriage
