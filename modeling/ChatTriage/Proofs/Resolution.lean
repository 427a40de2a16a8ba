import ChatTriage.Proofs.Candidates
import ChatTriage.Proofs.ConflictTable
import Mathlib.Data.List.Nodup
import Mathlib.Data.List.Perm.Subperm

/-!
# What rules do to candidates

One rule first: all that it can come to, and which candidates it leaves. Then a row of
rules: the languages left are those that started without the losers, no candidate is
made up or changed, and a run over two rows is a run over the one and then the other.
-/

namespace ChatTriage

open Candidate

namespace RuleOutcome

def losers (o : RuleOutcome) : List Language :=
  [o.a, o.b].filter (· ∉ o.kept)

theorem mem_losers {o : RuleOutcome} {l : Language} :
    l ∈ o.losers ↔ (l = o.a ∨ l = o.b) ∧ l ∉ o.kept := by
  simp [losers]

end RuleOutcome

/-- All that a rule can come to: who stays, and what decided it. -/
inductive CompiledRule.Settled (r : CompiledRule) (o : RuleOutcome) : Prop
  | aByMarkers (hv : o.verdict = .markers) (hk : o.kept = [r.rule.a])
      (hm : o.markersB < o.markersA)
  | bByMarkers (hv : o.verdict = .markers) (hk : o.kept = [r.rule.b])
      (hm : o.markersA < o.markersB)
  | aByWeight (hv : o.verdict = .tieBreak) (hk : o.kept = [r.rule.a])
      (hm : o.markersA = o.markersB) (hw : r.rule.weightB < r.rule.weightA)
  | bByWeight (hv : o.verdict = .tieBreak) (hk : o.kept = [r.rule.b])
      (hm : o.markersA = o.markersB) (hw : r.rule.weightA < r.rule.weightB)
  | both (hv : o.verdict = .unresolved) (hk : o.kept = [r.rule.a, r.rule.b])
      (hm : o.markersA = o.markersB) (hw : r.rule.weightA = r.rule.weightB)

namespace CompiledRule

variable {r : CompiledRule} {text : List Char} {cs : List Candidate} {l : Language}

@[simp] theorem settle_a : (r.settle text).a = r.rule.a := rfl

@[simp] theorem settle_b : (r.settle text).b = r.rule.b := rfl

theorem settled_settle (r : CompiledRule) (text : List Char) :
    r.Settled (r.settle text) := by
  generalize ho : r.settle text = o
  unfold settle at ho
  dsimp only at ho
  subst ho
  by_cases h1 : Pattern.countHits r.markersA text.toArray >
      Pattern.countHits r.markersB text.toArray
  · refine .aByMarkers ?_ ?_ h1 <;> simp [h1]
  by_cases h2 : Pattern.countHits r.markersA text.toArray <
      Pattern.countHits r.markersB text.toArray
  · refine .bByMarkers ?_ ?_ h2 <;> simp [h1, h2]
  have heq : Pattern.countHits r.markersA text.toArray =
      Pattern.countHits r.markersB text.toArray := by omega
  by_cases h3 : r.rule.weightA > r.rule.weightB
  · refine .aByWeight ?_ ?_ heq h3 <;> simp [h1, h2, h3]
  by_cases h4 : r.rule.weightA < r.rule.weightB
  · refine .bByWeight ?_ ?_ heq h4 <;> simp [h1, h2, h3, h4]
  · refine .both ?_ ?_ heq (UInt32.le_antisymm (UInt32.not_lt.1 h3) (UInt32.not_lt.1 h4)) <;>
      simp [h1, h2, h3, h4]

theorem decided_or_even (r : CompiledRule) (text : List Char) :
    (r.settle text).verdict ≠ .unresolved ∧
        ((r.settle text).kept = [r.rule.a] ∨ (r.settle text).kept = [r.rule.b]) ∨
      (r.settle text).verdict = .unresolved ∧ (r.settle text).kept = [r.rule.a, r.rule.b] ∧
        (r.settle text).markersA = (r.settle text).markersB ∧
          r.rule.weightA = r.rule.weightB := by
  cases settled_settle r text with
  | aByMarkers hv hk => exact .inl ⟨by simp [hv], .inl hk⟩
  | bByMarkers hv hk => exact .inl ⟨by simp [hv], .inr hk⟩
  | aByWeight hv hk => exact .inl ⟨by simp [hv], .inl hk⟩
  | bByWeight hv hk => exact .inl ⟨by simp [hv], .inr hk⟩
  | both hv hk hm hw => exact .inr ⟨hv, hk, hm, hw⟩

theorem even_of_unresolved (h : (r.settle text).verdict = .unresolved) :
    (r.settle text).kept = [r.rule.a, r.rule.b] ∧
      (r.settle text).markersA = (r.settle text).markersB ∧
        r.rule.weightA = r.rule.weightB := by
  rcases decided_or_even r text with ⟨hv, -⟩ | ⟨-, heven⟩
  · exact absurd h hv
  · exact heven

theorem kept_sublist (r : CompiledRule) (text : List Char) :
    (r.settle text).kept.Sublist [r.rule.a, r.rule.b] := by
  rcases decided_or_even r text with ⟨-, hk | hk⟩ | ⟨-, hk, -⟩ <;> simp [hk]

theorem kept_ne_nil (r : CompiledRule) (text : List Char) : (r.settle text).kept ≠ [] := by
  rcases decided_or_even r text with ⟨-, hk | hk⟩ | ⟨-, hk, -⟩ <;> simp [hk]

theorem losers_of_unresolved (h : (r.settle text).verdict = .unresolved) :
    (r.settle text).losers = [] := by
  simp [RuleOutcome.losers, (even_of_unresolved h).1]

theorem losers_of_decisive (hne : r.rule.a ≠ r.rule.b)
    (h : (r.settle text).verdict ≠ .unresolved) :
    ∃ l, (r.settle text).losers = [l] := by
  rcases decided_or_even r text with ⟨-, hk | hk⟩ | ⟨hv, -⟩
  · exact ⟨r.rule.b, by simp [RuleOutcome.losers, hk, hne.symm]⟩
  · exact ⟨r.rule.a, by simp [RuleOutcome.losers, hk, hne]⟩
  · exact absurd hv h

theorem fires_iff :
    r.fires cs = true ↔ r.rule.a ∈ languages cs ∧ r.rule.b ∈ languages cs := by
  rw [fires, Bool.and_eq_true, isSome_find?, isSome_find?]

theorem languages_survivors (r : CompiledRule) (kept : List Language)
    (cs : List Candidate) :
    languages (r.survivors kept cs) =
      (languages cs).filter (fun l => l != r.rule.a && l != r.rule.b) ++
        kept.filter (· ∈ languages cs) := by
  rw [survivors, languages_append, languages_filterMap_find?]
  simp only [languages, List.filter_map, Function.comp_def]

theorem mem_languages_survivors (hf : r.fires cs = true) :
    l ∈ languages (r.survivors (r.settle text).kept cs) ↔
      l ∈ languages cs ∧ l ∉ (r.settle text).losers := by
  obtain ⟨ha, hb⟩ := fires_iff.1 hf
  rw [languages_survivors, RuleOutcome.mem_losers]
  simp only [List.mem_append, List.mem_filter, Bool.and_eq_true, bne_iff_ne, ne_eq,
    decide_eq_true_eq, settle_a, settle_b]
  constructor
  · rintro (⟨hl, hla, hlb⟩ | ⟨hk, hl⟩)
    · exact ⟨hl, fun h => h.1.elim hla hlb⟩
    · exact ⟨hl, fun h => h.2 hk⟩
  · rintro ⟨hl, hstay⟩
    by_cases hk : l ∈ (r.settle text).kept
    · exact .inr ⟨hk, hl⟩
    · exact .inl ⟨hl, fun h => hstay ⟨.inl h, hk⟩, fun h => hstay ⟨.inr h, hk⟩⟩

theorem survivors_subperm (text : List Char) (cs : List Candidate)
    (hne : r.rule.a ≠ r.rule.b) :
    (r.survivors (r.settle text).kept cs).Subperm cs := by
  have hsub := kept_sublist r text
  generalize (r.settle text).kept = kept at hsub
  have hnodup : (kept.filterMap (find? cs)).Nodup := by
    refine List.Nodup.of_map (·.language) ?_
    change (languages _).Nodup
    rw [languages_filterMap_find?]
    exact (hsub.nodup (by simpa using hne)).filter _
  -- Those kept are different candidates among those that the rule names.
  have hnamed : kept.filterMap (find? cs) ⊆
      cs.filter fun c => !(c.language != r.rule.a && c.language != r.rule.b) := by
    intro c hc
    obtain ⟨l, hl, hfind⟩ := List.mem_filterMap.1 hc
    obtain ⟨hmem, rfl⟩ := find?_eq_some hfind
    have hab : c.language = r.rule.a ∨ c.language = r.rule.b := by
      simpa using hsub.subset hl
    refine List.mem_filter.2 ⟨hmem, ?_⟩
    rcases hab with hab | hab <;> simp [hab]
  have hall := List.filter_append_perm
    (fun c : Candidate => c.language != r.rule.a && c.language != r.rule.b) cs
  exact (List.Subperm.append (List.Subperm.refl _) (hnodup.subperm hnamed)).trans hall.subperm

theorem survivors_ne_nil (hf : r.fires cs = true) :
    r.survivors (r.settle text).kept cs ≠ [] := by
  obtain ⟨ha, hb⟩ := fires_iff.1 hf
  obtain ⟨l, hl⟩ := List.exists_mem_of_ne_nil _ (kept_ne_nil r text)
  have hmem : l ∈ languages cs := by
    have hab := (kept_sublist r text).subset hl
    simp only [List.mem_cons, List.not_mem_nil, or_false] at hab
    rcases hab with rfl | rfl <;> assumption
  have hstay : l ∈ languages (r.survivors (r.settle text).kept cs) :=
    (mem_languages_survivors hf).2 ⟨hmem, fun h => (RuleOutcome.mem_losers.1 h).2 hl⟩
  intro hnil
  simp [hnil] at hstay

end CompiledRule

/-! ## A row of rules -/

namespace ConflictTable

variable {text : List Char} {r : CompiledRule} {rules : List CompiledRule}
  {cs : List Candidate} {l : Language} {o : RuleOutcome}

@[simp] theorem resolveWith_nil : resolveWith text [] cs = ⟨cs, []⟩ := rfl

theorem resolveWith_fires (hf : r.fires cs = true) :
    resolveWith text (r :: rules) cs =
      ⟨(resolveWith text rules (r.survivors (r.settle text).kept cs)).remaining,
        r.settle text ::
          (resolveWith text rules (r.survivors (r.settle text).kept cs)).applied⟩ := by
  rw [resolveWith, if_pos hf]

theorem resolveWith_skips (hf : ¬ r.fires cs = true) :
    resolveWith text (r :: rules) cs = resolveWith text rules cs := by
  rw [resolveWith, if_neg hf]

theorem resolveWith_append (before after : List CompiledRule) :
    resolveWith text (before ++ after) cs =
      ⟨(resolveWith text after (resolveWith text before cs).remaining).remaining,
        (resolveWith text before cs).applied ++
          (resolveWith text after (resolveWith text before cs).remaining).applied⟩ := by
  induction before generalizing cs with
  | nil => rfl
  | cons r before ih =>
      by_cases hf : r.fires cs = true
      · rw [List.cons_append, resolveWith_fires hf, resolveWith_fires hf, ih]
        simp only [List.cons_append]
      · rw [List.cons_append, resolveWith_skips hf, resolveWith_skips hf, ih]

theorem resolveWith_of_idle (h : ∀ r ∈ rules, ¬ r.fires cs = true) :
    resolveWith text rules cs = ⟨cs, []⟩ := by
  induction rules with
  | nil => rfl
  | cons r rules ih =>
      rw [resolveWith_skips (h r (by simp))]
      exact ih fun s hs => h s (List.mem_cons_of_mem r hs)

/-- Whoever was in the running is left exactly when no outcome names it as a loser. -/
theorem mem_languages_remaining :
    l ∈ languages (resolveWith text rules cs).remaining ↔
      l ∈ languages cs ∧ ∀ o ∈ (resolveWith text rules cs).applied, l ∉ o.losers := by
  induction rules generalizing cs with
  | nil => simp
  | cons r rules ih =>
      by_cases hf : r.fires cs = true
      · rw [resolveWith_fires hf]
        simp only [ih, CompiledRule.mem_languages_survivors hf, List.forall_mem_cons,
          and_assoc]
      · rw [resolveWith_skips hf, ih]

theorem languages_remaining_subset :
    languages (resolveWith text rules cs).remaining ⊆ languages cs :=
  fun _ hl => (mem_languages_remaining.1 hl).1

theorem remaining_subperm (text : List Char) (cs : List Candidate)
    (hne : ∀ r ∈ rules, r.rule.a ≠ r.rule.b) :
    (resolveWith text rules cs).remaining.Subperm cs := by
  induction rules generalizing cs with
  | nil => exact List.Subperm.refl cs
  | cons r rules ih =>
      obtain ⟨hr, hrules⟩ := List.forall_mem_cons.1 hne
      by_cases hf : r.fires cs = true
      · rw [resolveWith_fires hf]
        exact (ih _ hrules).trans (CompiledRule.survivors_subperm text cs hr)
      · rw [resolveWith_skips hf]
        exact ih cs hrules

theorem remaining_ne_nil (h : cs ≠ []) : (resolveWith text rules cs).remaining ≠ [] := by
  induction rules generalizing cs with
  | nil => exact h
  | cons r rules ih =>
      by_cases hf : r.fires cs = true
      · rw [resolveWith_fires hf]
        exact ih (CompiledRule.survivors_ne_nil hf)
      · rw [resolveWith_skips hf]
        exact ih h

theorem applied_sublist (text : List Char) (rules : List CompiledRule)
    (cs : List Candidate) :
    (resolveWith text rules cs).applied.Sublist (rules.map (·.settle text)) := by
  induction rules generalizing cs with
  | nil => exact List.Sublist.refl []
  | cons r rules ih =>
      by_cases hf : r.fires cs = true
      · rw [resolveWith_fires hf]
        exact (ih _).cons_cons _
      · rw [resolveWith_skips hf]
        exact (ih cs).cons _

theorem exists_rule_of_applied (h : o ∈ (resolveWith text rules cs).applied) :
    ∃ r ∈ rules, r.settle text = o :=
  List.mem_map.1 ((applied_sublist text rules cs).subset h)

theorem applied_languages (h : o ∈ (resolveWith text rules cs).applied) :
    o.a ∈ languages cs ∧ o.b ∈ languages cs := by
  induction rules generalizing cs with
  | nil => simp at h
  | cons r rules ih =>
      by_cases hf : r.fires cs = true
      · rw [resolveWith_fires hf] at h
        rcases List.mem_cons.1 h with rfl | h
        · exact CompiledRule.fires_iff.1 hf
        · obtain ⟨ha, hb⟩ := ih h
          exact ⟨((CompiledRule.mem_languages_survivors hf).1 ha).1,
            ((CompiledRule.mem_languages_survivors hf).1 hb).1⟩
      · rw [resolveWith_skips hf] at h
        exact ih h

theorem kept_of_applied (h : o ∈ (resolveWith text rules cs).applied) (hl : l ∈ o.kept) :
    l = o.a ∨ l = o.b := by
  obtain ⟨r, -, rfl⟩ := exists_rule_of_applied h
  simpa using (CompiledRule.kept_sublist r text).subset hl

/-- A rule of a checked table has fired exactly when both its languages were left by the
rules in front of it. -/
theorem fired_iff (text : List Char) (cs : List Candidate) {before after : List CompiledRule}
    (hvalid : ValidRules (before ++ r :: after)) :
    (∃ o ∈ (resolveWith text (before ++ r :: after) cs).applied,
        r.rule.isAbout o.a o.b = true) ↔
      r.fires (resolveWith text before cs).remaining = true := by
  have hother : ∀ s ∈ before ++ after, ¬ r.rule.isAbout s.rule.a s.rule.b = true := by
    intro s hs
    rw [ConflictRule.isAbout_comm, hvalid.pair_unique hs]
    simp
  rw [resolveWith_append]
  constructor
  · rintro ⟨o, ho, habout⟩
    by_contra hf
    rw [resolveWith_skips hf] at ho
    rcases List.mem_append.1 ho with ho | ho
    · obtain ⟨s, hs, rfl⟩ := exists_rule_of_applied ho
      exact hother s (List.mem_append_left after hs) habout
    · obtain ⟨s, hs, rfl⟩ := exists_rule_of_applied ho
      exact hother s (List.mem_append_right before hs) habout
  · intro hf
    refine ⟨r.settle text, ?_, by simp [ConflictRule.isAbout]⟩
    rw [resolveWith_fires hf]
    simp

end ConflictTable

end ChatTriage
