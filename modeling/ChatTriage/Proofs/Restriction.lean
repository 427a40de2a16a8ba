import ChatTriage.Proofs.Resolution

/-!
# Groups of languages

If each rule is about two languages of a group or about none, the group keeps to itself:
what happens inside it does not depend on the candidates outside. To resolve all
candidates and look at the group is to resolve the group alone, order included. A language
without rules is a group of its own.
-/

namespace ChatTriage

open Candidate

def Candidate.within (group : Language → Bool) (cs : List Candidate) : List Candidate :=
  cs.filter fun c => group c.language

/-- What a resolution says about a group: its candidates left, and the outcomes of the
rules between two of its languages. -/
def Resolution.within (group : Language → Bool) (res : Resolution) : Resolution :=
  ⟨Candidate.within group res.remaining,
    res.applied.filter fun o => group o.a && group o.b⟩

/-- No rule of the table is about a language of the group and one outside. -/
def ConflictTable.IsGroup (t : ConflictTable) (group : Language → Bool) : Prop :=
  ∀ r ∈ t.rules, group r.rule.a = group r.rule.b

def ConflictTable.Names (t : ConflictTable) (l : Language) : Prop :=
  ∃ r ∈ t.rules, l = r.rule.a ∨ l = r.rule.b

namespace Candidate

variable {group : Language → Bool} {cs : List Candidate} {l : Language}

theorem languages_within (group : Language → Bool) (cs : List Candidate) :
    languages (within group cs) = (languages cs).filter group := by
  rw [languages, languages, List.filter_map]
  rfl

theorem find?_within (hl : group l = true) : find? (within group cs) l = find? cs l := by
  unfold find? within
  rw [List.find?_filter]
  congr 1
  funext c
  by_cases hc : c.language = l
  · simp [hc, hl]
  · simp [hc]

theorem within_filterMap_find? (group : Language → Bool) (cs : List Candidate)
    (ls : List Language) :
    within group (ls.filterMap (find? cs)) = (ls.filter group).filterMap (find? cs) := by
  unfold within
  induction ls with
  | nil => rfl
  | cons l ls ih =>
      cases hl : find? cs l with
      | none =>
          by_cases hgroup : group l = true <;> simp [hl, hgroup, ih]
      | some c =>
          obtain ⟨-, rfl⟩ := find?_eq_some hl
          by_cases hgroup : group c.language = true <;> simp [hl, hgroup, ih]

end Candidate

namespace CompiledRule

variable {r : CompiledRule} {group : Language → Bool} {cs : List Candidate}
  {kept : List Language}

theorem fires_within (cs : List Candidate) (ha : group r.rule.a = true)
    (hb : group r.rule.b = true) : r.fires (within group cs) = r.fires cs := by
  unfold fires
  rw [find?_within ha, find?_within hb]

theorem not_fires_within (ha : group r.rule.a = false) :
    ¬ r.fires (within group cs) = true := by
  rw [fires_iff, languages_within, List.mem_filter, ha]
  simp

theorem group_of_kept (hr : group r.rule.a = group r.rule.b)
    (hkept : kept ⊆ [r.rule.a, r.rule.b]) {l : Language} (hl : l ∈ kept) :
    group l = group r.rule.a := by
  have hab : l = r.rule.a ∨ l = r.rule.b := by simpa using hkept hl
  rcases hab with rfl | rfl
  · rfl
  · exact hr.symm

/-- A rule inside the group does to the group what it does to all candidates. -/
theorem within_survivors (hr : group r.rule.a = group r.rule.b)
    (ha : group r.rule.a = true) (hkept : kept ⊆ [r.rule.a, r.rule.b]) :
    within group (r.survivors kept cs) = r.survivors kept (within group cs) := by
  have hinside : ∀ l ∈ kept, group l = true := fun l hl =>
    (group_of_kept hr hkept hl).trans ha
  have hfound : within group (kept.filterMap (find? cs)) =
      kept.filterMap (find? (within group cs)) := by
    rw [within_filterMap_find?, List.filter_eq_self.2 hinside]
    exact List.filterMap_congr fun l hl => (find?_within (hinside l hl)).symm
  unfold survivors
  rw [← hfound]
  unfold within
  rw [List.filter_append, List.filter_filter, List.filter_filter]
  simp only [Bool.and_comm]

theorem within_survivors_of_outside (hr : group r.rule.a = group r.rule.b)
    (ha : group r.rule.a = false) (hkept : kept ⊆ [r.rule.a, r.rule.b]) :
    within group (r.survivors kept cs) = within group cs := by
  have houtside : ∀ l ∈ kept, ¬ group l = true := fun l hl =>
    Bool.eq_false_iff.1 ((group_of_kept hr hkept hl).trans ha)
  have hfound : within group (kept.filterMap (find? cs)) = [] := by
    rw [within_filterMap_find?, List.filter_eq_nil_iff.2 houtside]
    rfl
  have hothers : within group
      (cs.filter fun c => c.language != r.rule.a && c.language != r.rule.b) =
        within group cs := by
    unfold within
    rw [List.filter_filter]
    apply List.filter_congr
    intro c _
    by_cases hc : group c.language = true
    · have hca : c.language ≠ r.rule.a := fun h => by simp [h, ha] at hc
      have hcb : c.language ≠ r.rule.b := fun h => by simp [h, ← hr, ha] at hc
      simp [hc, hca, hcb]
    · simp [hc]
  unfold survivors
  unfold within at hfound hothers ⊢
  rw [List.filter_append, hfound, hothers, List.append_nil]

end CompiledRule

/-! ## A row of rules -/

namespace ConflictTable

variable {text : List Char} {rules : List CompiledRule} {group : Language → Bool}
  {cs : List Candidate} {l : Language}

theorem resolveWith_within (hgroup : ∀ r ∈ rules, group r.rule.a = group r.rule.b)
    (cs : List Candidate) (text : List Char) :
    resolveWith text rules (within group cs) =
      (resolveWith text rules cs).within group := by
  induction rules generalizing cs with
  | nil => rfl
  | cons r rules ih =>
      obtain ⟨hr, hrules⟩ := List.forall_mem_cons.1 hgroup
      have hkept := (CompiledRule.kept_sublist r text).subset
      cases ha : group r.rule.a with
      | true =>
          have hb : group r.rule.b = true := hr ▸ ha
          by_cases hf : r.fires cs = true
          · have hf' := (CompiledRule.fires_within cs ha hb).trans hf
            rw [resolveWith_fires hf, resolveWith_fires hf',
              ← CompiledRule.within_survivors hr ha hkept, ih hrules]
            simp [Resolution.within, ha, hb]
          · have hf' : ¬ r.fires (within group cs) = true :=
              (CompiledRule.fires_within cs ha hb).symm ▸ hf
            rw [resolveWith_skips hf, resolveWith_skips hf', ih hrules]
      | false =>
          rw [resolveWith_skips (CompiledRule.not_fires_within ha)]
          by_cases hf : r.fires cs = true
          · -- Only the run over all candidates takes a step, and the group does not see it.
            rw [resolveWith_fires hf, ← CompiledRule.within_survivors_of_outside hr ha hkept,
              ih hrules]
            simp [Resolution.within, ha]
          · rw [resolveWith_skips hf, ih hrules]

structure IsBystander (t : ConflictTable) (l : Language) : Prop where
  outcomes_eq : ∀ cs text,
    (t.resolve (within (· != l) cs) text).applied = (t.resolve cs text).applied
  others_eq : ∀ cs text, (t.resolve (within (· != l) cs) text).remaining =
    within (· != l) (t.resolve cs text).remaining
  stays : ∀ cs text, within (· == l) (t.resolve cs text).remaining = within (· == l) cs

theorem resolve_within_singleton {t : ConflictTable} (hl : ¬ t.Names l)
    (cs : List Candidate) (text : List Char) :
    t.resolve (within (· == l) cs) text = ⟨within (· == l) cs, []⟩ := by
  refine resolveWith_of_idle fun r hr => CompiledRule.not_fires_within ?_
  rw [beq_eq_false_iff_ne]
  exact fun ha => hl ⟨r, hr, .inl ha.symm⟩

theorem isBystander_of_not_names {t : ConflictTable} (hl : ¬ t.Names l) : t.IsBystander l := by
  have ha : ∀ r ∈ t.rules, r.rule.a ≠ l := fun r hr h => hl ⟨r, hr, .inl h.symm⟩
  have hb : ∀ r ∈ t.rules, r.rule.b ≠ l := fun r hr h => hl ⟨r, hr, .inr h.symm⟩
  have hgroup : t.IsGroup (· != l) := fun r hr =>
    (bne_iff_ne.2 (ha r hr)).trans (bne_iff_ne.2 (hb r hr)).symm
  have halone : t.IsGroup (· == l) := fun r hr => by simp [ha r hr, hb r hr]
  have hothers : ∀ cs text, t.resolve (within (· != l) cs) text =
      (t.resolve cs text).within (· != l) := resolveWith_within hgroup
  have hself : ∀ cs text, t.resolve (within (· == l) cs) text =
      (t.resolve cs text).within (· == l) := resolveWith_within halone
  refine ⟨fun cs text => ?_, fun cs text => ?_, fun cs text => ?_⟩
  · rw [hothers]
    refine List.filter_eq_self.2 fun o ho => ?_
    obtain ⟨r, hr, rfl⟩ := exists_rule_of_applied ho
    simp [ha r hr, hb r hr]
  · rw [hothers]
    rfl
  · have hsingle := hself cs text
    rw [resolve_within_singleton hl] at hsingle
    exact (congrArg Resolution.remaining hsingle).symm

theorem builtin_not_names {l : Language} (hl : l ∈ [Language.go, .html, .css]) :
    ¬ builtin.Names l := by
  have hcatalog : ∀ r ∈ Conflict.catalog, ∀ l ∈ [Language.go, .html, .css],
      l ≠ r.a ∧ l ≠ r.b := by decide
  rintro ⟨r, hr, hab⟩
  obtain ⟨ha, hb⟩ := hcatalog r.rule (builtin_rule_mem hr) l hl
  exact hab.elim ha hb

/-- The resolution of all candidates, looked at inside a group, is the resolution of the
group alone. A language without rules changes nothing and stays, as Go, HTML and CSS do
in the catalog. -/
theorem resolve_within :
    (∀ (t : ConflictTable) group, t.IsGroup group → ∀ cs text,
      t.resolve (within group cs) text = (t.resolve cs text).within group) ∧
    (∀ (t : ConflictTable) l, ¬ t.Names l → t.IsBystander l) ∧
    (∀ l ∈ [Language.go, .html, .css], builtin.IsBystander l) :=
  ⟨fun _ _ hgroup => resolveWith_within hgroup, fun _ _ => isBystander_of_not_names,
    fun _ hl => isBystander_of_not_names (builtin_not_names hl)⟩

def twoGroups : ConflictTable :=
  ⟨[⟨.javaScript, 5, ["=>"], .typeScript, 6, [": string"]⟩,
    ⟨.python, 5, ["def "], .ruby, 6, ["end"]⟩,
    ⟨.typeScript, 6, ["enum"], .java, 6, ["throws"]⟩].map ConflictRule.read⟩

/-- The rule between Python and Ruby fires between the two others, and a second entry for
Java goes when the first one is kept. -/
theorem resolve_within_twoGroups :
    twoGroups.resolve (within (· ∈ [.javaScript, .typeScript, .java])
        [⟨.ruby, 3⟩, ⟨.java, 2⟩, ⟨.javaScript, 1⟩, ⟨.python, 4⟩, ⟨.java, 5⟩,
          ⟨.typeScript, 4⟩]) "x: string".toList =
      (twoGroups.resolve [⟨.ruby, 3⟩, ⟨.java, 2⟩, ⟨.javaScript, 1⟩, ⟨.python, 4⟩, ⟨.java, 5⟩,
        ⟨.typeScript, 4⟩] "x: string".toList).within
          (· ∈ [.javaScript, .typeScript, .java]) ∧
    twoGroups.IsBystander .css ∧ builtin.IsBystander .html := by
  have hgroup : twoGroups.IsGroup (· ∈ [.javaScript, .typeScript, .java]) := by
    unfold IsGroup
    decide
  have hcss : ¬ twoGroups.Names .css := by
    unfold Names
    decide
  exact ⟨resolve_within.1 _ _ hgroup _ _, resolve_within.2.1 _ _ hcss,
    resolve_within.2.2 _ (by decide)⟩

end ConflictTable

end ChatTriage
