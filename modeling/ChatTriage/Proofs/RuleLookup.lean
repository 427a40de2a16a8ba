import ChatTriage.Proofs.Resolution

/-!
# Looking rules up

A lookup goes by the pair, in either order, and takes the first rule that it meets; a
resolution asks each rule in turn whether its two languages are there. In a checked table no
pair has two rules and no rule one language, so both find the same: between two candidates
the rule that a lookup finds is the one that fires, and every rule that has fired is the one
that a lookup finds for its languages.
-/

namespace ChatTriage

open Candidate

/-- The rule is about the two languages, and no other one of the row is. -/
structure IsOnlyRule (rules : List CompiledRule) (x y : Language) (r : CompiledRule) :
    Prop where
  pair_eq : s(r.rule.a, r.rule.b) = s(x, y)
  only : ∃ before after, rules = before ++ r :: after ∧
    ∀ q ∈ before ++ after, s(q.rule.a, q.rule.b) ≠ s(x, y)

theorem IsOnlyRule.mem {rules : List CompiledRule} {x y : Language} {r : CompiledRule}
    (h : IsOnlyRule rules x y r) : r ∈ rules := by
  obtain ⟨before, after, rfl, -⟩ := h.only
  simp

namespace ConflictTable

variable {t : ConflictTable} {x y : Language} {r : CompiledRule} {rule : ConflictRule}
  {cs : List Candidate} {text : List Char}

theorem ruleFor_comm (t : ConflictTable) (x y : Language) : t.ruleFor x y = t.ruleFor y x := by
  simp only [ruleFor, ConflictRule.isAbout_symm _ x y]

theorem ruleFor_eq_none_iff :
    t.ruleFor x y = none ↔ ∀ r ∈ t.rules, s(r.rule.a, r.rule.b) ≠ s(x, y) := by
  rw [ruleFor, List.find?_eq_none, List.forall_mem_map]
  simp only [ConflictRule.isAbout_iff_pair, ne_eq]

theorem ruleFor_self (hvalid : ValidRules t.rules) (x : Language) : t.ruleFor x x = none := by
  rw [ruleFor_eq_none_iff]
  intro r hr hpair
  apply hvalid.sides_ne r hr
  rcases Sym2.eq_iff.1 hpair with ⟨ha, hb⟩ | ⟨ha, hb⟩ <;> rw [ha, hb]

theorem isOnlyRule_of_mem (hvalid : ValidRules t.rules) (hr : r ∈ t.rules)
    (hpair : s(r.rule.a, r.rule.b) = s(x, y)) : IsOnlyRule t.rules x y r := by
  obtain ⟨before, after, hsplit⟩ := List.append_of_mem hr
  refine ⟨hpair, before, after, hsplit, fun q hq => ?_⟩
  rw [hsplit] at hvalid
  rw [← hpair]
  exact ConflictRule.isAbout_eq_false_iff.1 (hvalid.pair_unique hq)

theorem ruleFor_eq_some_iff (hvalid : ValidRules t.rules) :
    t.ruleFor x y = some rule ↔ ∃ r, IsOnlyRule t.rules x y r ∧ r.rule = rule := by
  constructor
  · intro h
    rw [ruleFor] at h
    have habout := List.find?_some h
    obtain ⟨r, hr, rfl⟩ := List.mem_map.1 (List.mem_of_find?_eq_some h)
    exact ⟨r, isOnlyRule_of_mem hvalid hr (ConflictRule.isAbout_iff_pair.1 habout), rfl⟩
  · rintro ⟨r, ⟨hpair, before, after, hsplit, hothers⟩, rfl⟩
    rw [ruleFor, hsplit, List.map_append, List.map_cons, List.find?_eq_some_iff_append]
    refine ⟨ConflictRule.isAbout_iff_pair.2 hpair, _, _, rfl, ?_⟩
    rw [List.forall_mem_map]
    intro q hq
    rw [ConflictRule.isAbout_eq_false_iff.2 (hothers q (List.mem_append_left after hq))]
    rfl

/-! ## Two candidates -/

theorem not_fires_of_pair_ne (hcs : languages cs ⊆ [x, y]) (hsides : r.rule.a ≠ r.rule.b)
    (hpair : s(r.rule.a, r.rule.b) ≠ s(x, y)) : ¬ r.fires cs = true := by
  intro hf
  obtain ⟨ha, hb⟩ := CompiledRule.fires_iff.1 hf
  have ha := hcs ha
  have hb := hcs hb
  simp only [List.mem_cons, List.not_mem_nil, or_false] at ha hb
  apply hpair
  rcases ha with ha | ha <;> rcases hb with hb | hb
  · exact absurd (ha.trans hb.symm) hsides
  · rw [ha, hb]
  · rw [ha, hb, Sym2.eq_swap]
  · exact absurd (ha.trans hb.symm) hsides

theorem resolve_of_ruleFor_eq_none (hvalid : ValidRules t.rules) (h : t.ruleFor x y = none)
    (hcs : languages cs ⊆ [x, y]) : t.resolve cs text = ⟨cs, []⟩ :=
  resolveWith_of_idle fun r hr =>
    not_fires_of_pair_ne hcs (hvalid.sides_ne r hr) (ruleFor_eq_none_iff.1 h r hr)

/-- Between two candidates only the rule about them fires. -/
theorem resolve_of_isOnlyRule (hvalid : ValidRules t.rules) (hr : IsOnlyRule t.rules x y r)
    (hcs : ∀ l, l ∈ languages cs ↔ l = x ∨ l = y) :
    t.resolve cs text = ⟨r.survivors (r.settle text).kept cs, [r.settle text]⟩ := by
  obtain ⟨hpair, before, after, hsplit, hothers⟩ := hr
  have hsub : languages cs ⊆ [x, y] := fun l hl => by simpa using (hcs l).1 hl
  have hf : r.fires cs = true := by
    rw [CompiledRule.fires_iff, hcs, hcs]
    rcases Sym2.eq_iff.1 hpair with ⟨ha, hb⟩ | ⟨ha, hb⟩
    · exact ⟨.inl ha, .inr hb⟩
    · exact ⟨.inr ha, .inl hb⟩
  have hidle : ∀ q ∈ before ++ after, ∀ ds, languages ds ⊆ languages cs →
      ¬ q.fires ds = true := by
    intro q hq ds hds
    refine not_fires_of_pair_ne (fun l hl => hsub (hds hl)) (hvalid.sides_ne q ?_) (hothers q hq)
    rw [hsplit]
    rcases List.mem_append.1 hq with hq | hq <;> simp [hq]
  have hbefore : resolveWith text before cs = ⟨cs, []⟩ :=
    resolveWith_of_idle fun q hq => hidle q (List.mem_append_left _ hq) cs (fun _ hl => hl)
  have hafter : resolveWith text after (r.survivors (r.settle text).kept cs) =
      ⟨r.survivors (r.settle text).kept cs, []⟩ :=
    resolveWith_of_idle fun q hq => hidle q (List.mem_append_right _ hq) _
      fun l hl => ((CompiledRule.mem_languages_survivors hf).1 hl).1
  rw [resolve, hsplit, resolveWith_append, hbefore, resolveWith_fires hf, hafter]
  rfl

/-- The rule that a lookup finds for a pair is the one that settles it. -/
structure LookupAgrees (t : ConflictTable) : Prop where
  comm : ∀ x y, t.ruleFor x y = t.ruleFor y x
  self : ∀ x, t.ruleFor x x = none
  some_iff : ∀ x y rule,
    t.ruleFor x y = some rule ↔ ∃ r, IsOnlyRule t.rules x y r ∧ r.rule = rule
  pair_untouched : ∀ x y, t.ruleFor x y = none → ∀ v w text,
    ∀ cs ∈ [[⟨x, v⟩, ⟨y, w⟩], [⟨y, w⟩, ⟨x, v⟩]], t.resolve cs text = ⟨cs, []⟩
  pair_settled : ∀ x y rule, t.ruleFor x y = some rule → ∀ v w text,
    ∀ cs ∈ [[⟨x, v⟩, ⟨y, w⟩], [⟨y, w⟩, ⟨x, v⟩]], ∃ r ∈ t.rules, r.rule = rule ∧
      t.resolve cs text = ⟨r.survivors (r.settle text).kept cs, [r.settle text]⟩
  outcome_oriented : ∀ cs text, ∀ o ∈ (t.resolve cs text).applied,
    ∃ rule, t.ruleFor o.a o.b = some rule ∧ rule.a = o.a ∧ rule.b = o.b

theorem lookupAgrees_of_valid (hvalid : ValidRules t.rules) : LookupAgrees t where
  comm := ruleFor_comm t
  self := ruleFor_self hvalid
  some_iff _ _ _ := ruleFor_eq_some_iff hvalid
  pair_untouched x y h v w text cs hcs := by
    refine resolve_of_ruleFor_eq_none hvalid h ?_
    simp only [List.mem_cons, List.not_mem_nil, or_false] at hcs
    rcases hcs with rfl | rfl <;> simp
  pair_settled x y rule h v w text cs hcs := by
    obtain ⟨r, hr, hrule⟩ := (ruleFor_eq_some_iff hvalid).1 h
    refine ⟨r, hr.mem, hrule, resolve_of_isOnlyRule hvalid hr fun l => ?_⟩
    simp only [List.mem_cons, List.not_mem_nil, or_false] at hcs
    rcases hcs with rfl | rfl <;> simp [or_comm]
  outcome_oriented cs text o ho := by
    obtain ⟨r, hr, rfl⟩ := exists_rule_of_applied ho
    exact ⟨r.rule, (ruleFor_eq_some_iff hvalid).2 ⟨r, isOnlyRule_of_mem hvalid hr rfl, rfl⟩,
      rfl, rfl⟩

theorem ruleFor_agrees {k : PatternCompiler} {source : List ConflictRule}
    (ht : ofRulesWith k source = .ok t) : LookupAgrees t :=
  lookupAgrees_of_valid (valid_of_ofRulesWith ht)

theorem ruleFor_agrees_threeRules : LookupAgrees threeRuleTable :=
  ruleFor_agrees ofRules_threeRules

end ConflictTable

end ChatTriage
