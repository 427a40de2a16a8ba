import ChatTriage.Proofs.Resolution

/-!
# The books of a resolution

Candidates with different languages are split by a checked table into those that are left
and those that lost: every language is in one of the two camps, each loser has exactly
one outcome that it lost in, and after that it is heard of no more.
-/

namespace ChatTriage

open Candidate

/-- The account of a resolution of `cs` by `rules`. -/
structure EliminationAccount (rules : List CompiledRule) (text : List Char)
    (cs : List Candidate) (res : Resolution) : Prop where
  remaining_nodup : (languages res.remaining).Nodup
  remaining_subset : ∀ c ∈ res.remaining, c ∈ cs
  applied_in_order : ∃ fired : List CompiledRule,
    fired.Sublist rules ∧ res.applied = fired.map (·.settle text)
  pairs_nodup : (res.applied.map fun o => s(o.a, o.b)).Nodup
  /-- A rule is passed over exactly when one of its languages is not there: it never was,
  or a rule further up has thrown it out. -/
  passed_over_iff : ∀ before r after, rules = before ++ r :: after →
    ((∀ o ∈ res.applied, r.rule.isAbout o.a o.b = false) ↔
      ∃ l, (l = r.rule.a ∨ l = r.rule.b) ∧
        (l ∉ languages cs ∨
          ∃ s ∈ before, s.settle text ∈ res.applied ∧ l ∈ (s.settle text).losers))
  decisive_loser : ∀ o ∈ res.applied, o.verdict ≠ .unresolved → ∃ l, o.losers = [l]
  unresolved_loser : ∀ o ∈ res.applied, o.verdict = .unresolved → o.losers = []
  loser_silent : res.applied.Pairwise fun o p =>
    ∀ l ∈ o.losers, l ≠ p.a ∧ l ≠ p.b ∧ l ∉ p.kept
  loser_gone : ∀ o ∈ res.applied, ∀ l ∈ o.losers, l ∉ languages res.remaining
  stays_or_loses : ∀ l ∈ languages cs,
    (l ∈ languages res.remaining ∧ res.applied.countP (l ∈ ·.losers) = 0) ∨
      (l ∉ languages res.remaining ∧ res.applied.countP (l ∈ ·.losers) = 1)
  length_eq : cs.length = res.remaining.length + res.applied.countP (·.verdict ≠ .unresolved)
  remaining_ne_nil : cs ≠ [] → res.remaining ≠ []

namespace CompiledRule

variable {r : CompiledRule} {text : List Char} {cs : List Candidate}

/-- Between different candidates a rule that fires makes two camps of the languages. -/
theorem languages_perm_survivors (text : List Char) (hne : r.rule.a ≠ r.rule.b)
    (hcs : (languages cs).Nodup) (hf : r.fires cs = true) :
    (languages cs).Perm
      (languages (r.survivors (r.settle text).kept cs) ++ (r.settle text).losers) := by
  obtain ⟨ha, hb⟩ := fires_iff.1 hf
  have hstay : (languages (r.survivors (r.settle text).kept cs)).Nodup :=
    languages_nodup (survivors_subperm text cs hne) hcs
  have hlose : (r.settle text).losers.Nodup :=
    List.Nodup.filter _ (by simpa using hne)
  refine (List.perm_ext_iff_of_nodup hcs ?_).2 fun l => ?_
  · refine List.nodup_append.2 ⟨hstay, hlose, ?_⟩
    rintro l hl _ hl' rfl
    exact ((mem_languages_survivors hf).1 hl).2 hl'
  · rw [List.mem_append, mem_languages_survivors hf]
    by_cases hl : l ∈ (r.settle text).losers
    · have hab := (RuleOutcome.mem_losers.1 hl).1
      simp only [settle_a, settle_b] at hab
      have : l ∈ languages cs := by rcases hab with rfl | rfl <;> assumption
      simp [hl, this]
    · simp [hl]

end CompiledRule

/-! ## Losers of a run -/

namespace ConflictTable

variable {text : List Char} {rules : List CompiledRule} {cs : List Candidate}

theorem languages_perm_remaining (text : List Char) (hvalid : ValidRules rules)
    (hcs : (languages cs).Nodup) :
    (languages cs).Perm (languages (resolveWith text rules cs).remaining ++
      (resolveWith text rules cs).applied.flatMap (·.losers)) := by
  induction rules generalizing cs with
  | nil => simp
  | cons r rules ih =>
      by_cases hf : r.fires cs = true
      · have hstep := CompiledRule.languages_perm_survivors text hvalid.head hcs hf
        have hnext := ih hvalid.tail (List.nodup_append.1 (hstep.nodup hcs)).1
        rw [resolveWith_fires hf, List.flatMap_cons]
        refine (hstep.trans (hnext.append_right _)).trans ?_
        rw [List.append_assoc]
        exact List.perm_append_comm.append_left _
      · rw [resolveWith_skips hf]
        exact ih hvalid.tail hcs

theorem length_flatMap_losers {os : List RuleOutcome}
    (hdecisive : ∀ o ∈ os, o.verdict ≠ .unresolved → ∃ l, o.losers = [l])
    (hunresolved : ∀ o ∈ os, o.verdict = .unresolved → o.losers = []) :
    (os.flatMap (·.losers)).length = os.countP (·.verdict ≠ .unresolved) := by
  induction os with
  | nil => rfl
  | cons o os ih =>
      obtain ⟨hd, hds⟩ := List.forall_mem_cons.1 hdecisive
      obtain ⟨hu, hus⟩ := List.forall_mem_cons.1 hunresolved
      rw [List.flatMap_cons, List.length_append, List.countP_cons, ih hds hus]
      by_cases hv : o.verdict = .unresolved
      · simp [hv, hu hv]
      · obtain ⟨l, hl⟩ := hd hv
        simp [hv, hl, Nat.add_comm]

theorem count_flatMap_losers {os : List RuleOutcome}
    (hnodup : ∀ o ∈ os, o.losers.Nodup) (l : Language) :
    (os.flatMap (·.losers)).count l = os.countP (l ∈ ·.losers) := by
  induction os with
  | nil => rfl
  | cons o os ih =>
      obtain ⟨ho, hos⟩ := List.forall_mem_cons.1 hnodup
      rw [List.flatMap_cons, List.count_append, List.countP_cons, ih hos, ho.count]
      simp [Nat.add_comm]

section

variable {before after : List CompiledRule} {r : CompiledRule} {l : Language}

theorem not_mem_remaining_iff :
    l ∉ languages (resolveWith text before cs).remaining ↔
      l ∉ languages cs ∨ ∃ o ∈ (resolveWith text before cs).applied, l ∈ o.losers := by
  rw [mem_languages_remaining]
  by_cases hl : l ∈ languages cs
  · simp [hl]
  · simp [hl]

theorem exists_loser_iff (hvalid : ValidRules (before ++ r :: after)) :
    (∃ o ∈ (resolveWith text before cs).applied, l ∈ o.losers) ↔
      ∃ s ∈ before, s.settle text ∈ (resolveWith text (before ++ r :: after) cs).applied ∧
        l ∈ (s.settle text).losers := by
  rw [resolveWith_append]
  constructor
  · rintro ⟨o, ho, hl⟩
    obtain ⟨s, hs, rfl⟩ := exists_rule_of_applied ho
    exact ⟨s, hs, List.mem_append_left _ ho, hl⟩
  · rintro ⟨s, hs, ho, hl⟩
    rcases List.mem_append.1 ho with ho | ho
    · exact ⟨s.settle text, ho, hl⟩
    · -- A rule from `r` on would have the same outcome only on the same pair.
      obtain ⟨q, hq, heq⟩ := exists_rule_of_applied ho
      have hpair := (List.pairwise_append.1 hvalid.pairs_ne).2.2 s hs q hq
      have ha : q.rule.a = s.rule.a := congrArg RuleOutcome.a heq
      have hb : q.rule.b = s.rule.b := congrArg RuleOutcome.b heq
      simp [ConflictRule.isAbout, ha, hb] at hpair

theorem passed_over_iff (hvalid : ValidRules (before ++ r :: after)) :
    (∀ o ∈ (resolveWith text (before ++ r :: after) cs).applied,
        r.rule.isAbout o.a o.b = false) ↔
      ∃ l, (l = r.rule.a ∨ l = r.rule.b) ∧
        (l ∉ languages cs ∨
          ∃ s ∈ before, s.settle text ∈
              (resolveWith text (before ++ r :: after) cs).applied ∧
            l ∈ (s.settle text).losers) := by
  calc (∀ o ∈ (resolveWith text (before ++ r :: after) cs).applied,
          r.rule.isAbout o.a o.b = false)
      ↔ ¬ r.fires (resolveWith text before cs).remaining = true := by
        rw [← fired_iff text cs hvalid]
        simp
    _ ↔ ∃ l, (l = r.rule.a ∨ l = r.rule.b) ∧
          l ∉ languages (resolveWith text before cs).remaining := by
        rw [CompiledRule.fires_iff, not_and_or]
        simp [or_and_right, exists_or]
    _ ↔ _ := by
        refine exists_congr fun l => and_congr_right fun _ => ?_
        rw [not_mem_remaining_iff, exists_loser_iff hvalid]

end

theorem pairs_nodup (hvalid : ValidRules rules) :
    ((resolveWith text rules cs).applied.map fun o => s(o.a, o.b)).Nodup := by
  have hall : (rules.map fun r => s(r.rule.a, r.rule.b)).Nodup :=
    List.pairwise_map.2 (hvalid.pairs_ne.imp ConflictRule.isAbout_eq_false_iff.1)
  have hsub := (applied_sublist text rules cs).map fun o => s(o.a, o.b)
  rw [List.map_map] at hsub
  exact hsub.nodup hall

theorem loser_silent :
    (resolveWith text rules cs).applied.Pairwise fun o p =>
      ∀ l ∈ o.losers, l ≠ p.a ∧ l ≠ p.b ∧ l ∉ p.kept := by
  induction rules generalizing cs with
  | nil => exact List.Pairwise.nil
  | cons r rules ih =>
      by_cases hf : r.fires cs = true
      · rw [resolveWith_fires hf]
        refine List.pairwise_cons.2 ⟨fun p hp l hl => ?_, ih⟩
        -- A later rule fires between languages that this one has left.
        obtain ⟨ha, hb⟩ := applied_languages hp
        have hla : l ≠ p.a := fun h =>
          ((CompiledRule.mem_languages_survivors hf).1 ha).2 (h ▸ hl)
        have hlb : l ≠ p.b := fun h =>
          ((CompiledRule.mem_languages_survivors hf).1 hb).2 (h ▸ hl)
        exact ⟨hla, hlb, fun hk => (kept_of_applied hp hk).elim hla hlb⟩
      · rw [resolveWith_skips hf]
        exact ih

theorem decisive_loser (hne : ∀ r ∈ rules, r.rule.a ≠ r.rule.b) {o : RuleOutcome}
    (ho : o ∈ (resolveWith text rules cs).applied) (hv : o.verdict ≠ .unresolved) :
    ∃ l, o.losers = [l] := by
  obtain ⟨r, hr, rfl⟩ := exists_rule_of_applied ho
  exact CompiledRule.losers_of_decisive (hne r hr) hv

theorem unresolved_loser {o : RuleOutcome} (ho : o ∈ (resolveWith text rules cs).applied)
    (hv : o.verdict = .unresolved) : o.losers = [] := by
  obtain ⟨r, -, rfl⟩ := exists_rule_of_applied ho
  exact CompiledRule.losers_of_unresolved hv

theorem losers_nodup (hne : ∀ r ∈ rules, r.rule.a ≠ r.rule.b) {o : RuleOutcome}
    (ho : o ∈ (resolveWith text rules cs).applied) : o.losers.Nodup := by
  obtain ⟨r, hr, rfl⟩ := exists_rule_of_applied ho
  exact List.Nodup.filter _ (by simpa using hne r hr)

theorem stays_or_loses (hvalid : ValidRules rules) (hcs : (languages cs).Nodup)
    {l : Language} (hl : l ∈ languages cs) :
    (l ∈ languages (resolveWith text rules cs).remaining ∧
        (resolveWith text rules cs).applied.countP (l ∈ ·.losers) = 0) ∨
      (l ∉ languages (resolveWith text rules cs).remaining ∧
        (resolveWith text rules cs).applied.countP (l ∈ ·.losers) = 1) := by
  have hcount := (languages_perm_remaining text hvalid hcs).count_eq l
  rw [List.count_append, List.count_eq_one_of_mem hcs hl,
    count_flatMap_losers fun o => losers_nodup hvalid.sides_ne] at hcount
  by_cases hstay : l ∈ languages (resolveWith text rules cs).remaining
  · have hpos := List.count_pos_iff.2 hstay
    exact .inl ⟨hstay, by omega⟩
  · have hzero := List.count_eq_zero.2 hstay
    exact .inr ⟨hstay, by omega⟩

theorem length_remaining (hvalid : ValidRules rules) (hcs : (languages cs).Nodup) :
    cs.length = (resolveWith text rules cs).remaining.length +
      (resolveWith text rules cs).applied.countP (·.verdict ≠ .unresolved) := by
  have hlength := (languages_perm_remaining text hvalid hcs).length_eq
  rw [List.length_append, length_languages, length_languages,
    length_flatMap_losers (fun o => decisive_loser hvalid.sides_ne)
      (fun o => unresolved_loser)] at hlength
  exact hlength

theorem resolve_account {k : PatternCompiler} {source : List ConflictRule}
    {t : ConflictTable} (ht : ofRulesWith k source = .ok t) {cs : List Candidate}
    (hcs : (languages cs).Nodup) (text : List Char) :
    EliminationAccount t.rules text cs (t.resolve cs text) := by
  have hvalid := valid_of_ofRulesWith ht
  have hsub := remaining_subperm text cs hvalid.sides_ne
  exact {
    remaining_nodup := languages_nodup hsub hcs
    remaining_subset := fun c hc => hsub.subset hc
    applied_in_order := List.sublist_map_iff.1 (applied_sublist text t.rules cs)
    pairs_nodup := pairs_nodup hvalid
    passed_over_iff := by
      intro before r after hrules
      rw [resolve, hrules]
      exact passed_over_iff (hrules ▸ hvalid)
    decisive_loser := fun o => decisive_loser hvalid.sides_ne
    unresolved_loser := fun o => unresolved_loser
    loser_silent := loser_silent
    loser_gone := fun o ho l hl hstay => (mem_languages_remaining.1 hstay).2 o ho hl
    stays_or_loses := fun l => stays_or_loses hvalid hcs
    length_eq := length_remaining hvalid hcs
    remaining_ne_nil := remaining_ne_nil }

/-- TypeScript loses to JavaScript by a marker, so that its rule with Java is passed over,
and Java loses to Go by weight. -/
theorem resolve_account_threeRules :
    EliminationAccount threeRuleTable.rules "x => y".toList
      [⟨.javaScript, 1⟩, ⟨.typeScript, 4⟩, ⟨.java, 2⟩, ⟨.go, 2⟩, ⟨.css, 1⟩]
      (threeRuleTable.resolve
        [⟨.javaScript, 1⟩, ⟨.typeScript, 4⟩, ⟨.java, 2⟩, ⟨.go, 2⟩, ⟨.css, 1⟩]
        "x => y".toList) :=
  resolve_account ofRules_threeRules (by decide) _

end ConflictTable

end ChatTriage
