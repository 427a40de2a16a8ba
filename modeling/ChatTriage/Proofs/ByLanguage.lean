import ChatTriage.Proofs.Restriction

/-!
# Candidates language by language

A resolution sees a list of candidates only through the entries of each language. Two lists
that agree in these, however the languages are mixed, fire the same rules and agree in the
entries again. What a rule leaves of one language is said once, for the languages that it
names and for the others.
-/

namespace ChatTriage

open Candidate

def ConflictRule.pair (r : ConflictRule) : List Language :=
  [r.a, r.b]

theorem ConflictRule.mem_pair {r : ConflictRule} {l : Language} :
    l ∈ r.pair ↔ l = r.a ∨ l = r.b := by
  simp [pair]

namespace Candidate

/-- Both lists have the same entries for each language, in the same order. -/
def SameByLanguage (cs ds : List Candidate) : Prop :=
  ∀ l, within (· == l) cs = within (· == l) ds

theorem find?_eq_head?_within (cs : List Candidate) (l : Language) :
    find? cs l = (within (· == l) cs).head? := by
  rw [within, List.head?_filter, find?]

namespace SameByLanguage

variable {cs ds es : List Candidate}

theorem refl (cs : List Candidate) : SameByLanguage cs cs :=
  fun _ => rfl

theorem trans (h : SameByLanguage cs ds) (h' : SameByLanguage ds es) :
    SameByLanguage cs es :=
  fun l => (h l).trans (h' l)

theorem find?_eq (h : SameByLanguage cs ds) : find? cs = find? ds := by
  funext l
  rw [find?_eq_head?_within, find?_eq_head?_within, h l]

theorem perm (h : SameByLanguage cs ds) : cs.Perm ds := by
  have hcount : ∀ (es : List Candidate) (c : Candidate),
      es.count c = (within (· == c.language) es).count c := by
    intro es c
    rw [within, List.count_filter (by simp)]
  apply List.perm_iff_count.2
  intro c
  rw [hcount cs, hcount ds, h c.language]

end SameByLanguage

end Candidate

namespace CompiledRule

variable {r : CompiledRule} {kept : List Language} {cs ds : List Candidate} {l : Language}

theorem kept_subset (r : CompiledRule) (text : List Char) :
    (r.settle text).kept ⊆ r.rule.pair :=
  (kept_sublist r text).subset

theorem within_survivors_of_not_mem (hkept : kept ⊆ r.rule.pair) (hl : l ∉ r.rule.pair) :
    within (· == l) (r.survivors kept cs) = within (· == l) cs := by
  rw [ConflictRule.mem_pair, not_or] at hl
  have ha : (r.rule.a == l) = false := beq_eq_false_iff_ne.2 (Ne.symm hl.1)
  have hb : (r.rule.b == l) = false := beq_eq_false_iff_ne.2 (Ne.symm hl.2)
  exact within_survivors_of_outside (ha.trans hb.symm) ha hkept

theorem within_survivors_of_mem (hl : l ∈ r.rule.pair) :
    within (· == l) (r.survivors kept cs) =
      (kept.filter (· == l)).filterMap (find? cs) := by
  have hothers : within (· == l)
      (cs.filter fun c => c.language != r.rule.a && c.language != r.rule.b) = [] := by
    rw [within, List.filter_filter, List.filter_eq_nil_iff]
    intro c _ hc
    rw [Bool.and_eq_true, Bool.and_eq_true, beq_iff_eq, bne_iff_ne, bne_iff_ne] at hc
    obtain ⟨rfl, ha, hb⟩ := hc
    exact (ConflictRule.mem_pair.1 hl).elim ha hb
  rw [survivors]
  unfold within at hothers ⊢
  rw [List.filter_append, hothers, List.nil_append]
  exact within_filterMap_find? (· == l) cs kept

theorem find?_survivors_of_not_mem (hkept : kept ⊆ r.rule.pair) (hl : l ∉ r.rule.pair) :
    find? (r.survivors kept cs) l = find? cs l := by
  rw [find?_eq_head?_within, within_survivors_of_not_mem hkept hl, ← find?_eq_head?_within]

/-- The first entry for a language after a rule was its first entry before. -/
theorem find?_eq_of_find?_survivors {c : Candidate} (hkept : kept ⊆ r.rule.pair)
    (h : find? (r.survivors kept cs) l = some c) : find? cs l = some c := by
  by_cases hl : l ∈ r.rule.pair
  · rw [find?_eq_head?_within, within_survivors_of_mem hl] at h
    have hc : c ∈ (kept.filter (· == l)).filterMap (find? cs) := List.mem_of_head? h
    obtain ⟨m, hm, hfind⟩ := List.mem_filterMap.1 hc
    have hml : m = l := by simpa using (List.mem_filter.1 hm).2
    rwa [hml] at hfind
  · rwa [find?_survivors_of_not_mem hkept hl] at h

theorem fires_sameByLanguage (r : CompiledRule) (h : SameByLanguage cs ds) :
    r.fires cs = r.fires ds := by
  rw [fires, fires, h.find?_eq]

theorem survivors_sameByLanguage (hkept : kept ⊆ r.rule.pair) (h : SameByLanguage cs ds) :
    SameByLanguage (r.survivors kept cs) (r.survivors kept ds) := by
  intro l
  by_cases hl : l ∈ r.rule.pair
  · rw [within_survivors_of_mem hl, within_survivors_of_mem hl, h.find?_eq]
  · rw [within_survivors_of_not_mem hkept hl, within_survivors_of_not_mem hkept hl, h l]

end CompiledRule

/-! ## A row of rules -/

namespace ConflictTable

variable {rules : List CompiledRule} {cs ds : List Candidate}

theorem resolveWith_sameByLanguage (text : List Char) (rules : List CompiledRule)
    (h : SameByLanguage cs ds) :
    (resolveWith text rules cs).applied = (resolveWith text rules ds).applied ∧
      SameByLanguage (resolveWith text rules cs).remaining
        (resolveWith text rules ds).remaining := by
  induction rules generalizing cs ds with
  | nil => exact ⟨rfl, h⟩
  | cons r rules ih =>
      have hfires := r.fires_sameByLanguage h
      by_cases hf : r.fires cs = true
      · have hf' : r.fires ds = true := hfires ▸ hf
        obtain ⟨happlied, hremaining⟩ :=
          ih (CompiledRule.survivors_sameByLanguage (r.kept_subset text) h)
        rw [resolveWith_fires hf, resolveWith_fires hf']
        exact ⟨congrArg (r.settle text :: ·) happlied, hremaining⟩
      · have hf' : ¬ r.fires ds = true := hfires ▸ hf
        rw [resolveWith_skips hf, resolveWith_skips hf']
        exact ih h

end ConflictTable

end ChatTriage
