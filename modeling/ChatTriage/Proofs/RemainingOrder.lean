import ChatTriage.Proofs.Votes

/-!
# The order of what is left

A rule that fires moves whom it keeps to the end, so a language stands where the last
outcome that names it has put it. Those that no outcome names have never moved and stand
in front, as they stood in the list.
-/

namespace ChatTriage

open Candidate RuleOutcome

namespace RuleOutcome

variable {o p : RuleOutcome} {os : List RuleOutcome} {l m : Language} {i : Nat}

/-- The outcome at this place is the last one that names the language. -/
structure LastNaming (os : List RuleOutcome) (l : Language) (i : Nat) (o : RuleOutcome) :
    Prop where
  at_place : os[i]? = some o
  named : l = o.a ∨ l = o.b
  not_named_later : namedBy (os.drop (i + 1)) l = false

/-- The last outcome that names `l` stands before the last one that names `m`, or both
have last been named by one outcome, which left its tie open, `l` as its side a. -/
def SettledBefore (os : List RuleOutcome) (l m : Language) : Prop :=
  ∃ i o j p, LastNaming os l i o ∧ LastNaming os m j p ∧
    (i < j ∨ i = j ∧ o.verdict = .unresolved ∧ l = o.a ∧ m = o.b)

/-- One side is kept, or the tie is open and both are. -/
def KeepsSides (o : RuleOutcome) : Prop :=
  (o.kept = [o.a] ∨ o.kept = [o.b]) ∨ o.verdict = .unresolved ∧ o.kept = [o.a, o.b]

theorem KeepsSides.eq_or_eq (h : o.KeepsSides) (hl : l ∈ o.kept) : l = o.a ∨ l = o.b := by
  rcases h with (hk | hk) | ⟨-, hk⟩ <;> simp_all

theorem lastNaming_head (hl : l = o.a ∨ l = o.b) (hlater : namedBy os l = false) :
    LastNaming (o :: os) l 0 o :=
  ⟨rfl, hl, hlater⟩

theorem LastNaming.cons (h : LastNaming os l i o) (p : RuleOutcome) :
    LastNaming (p :: os) l (i + 1) o :=
  ⟨h.at_place, h.named, h.not_named_later⟩

theorem SettledBefore.cons (h : SettledBefore os l m) (o : RuleOutcome) :
    SettledBefore (o :: os) l m := by
  obtain ⟨i, p, j, q, hl, hm, hij⟩ := h
  refine ⟨i + 1, p, j + 1, q, hl.cons o, hm.cons o, ?_⟩
  exact hij.imp Nat.succ_lt_succ (And.imp_left (congrArg (· + 1)))

theorem exists_lastNaming (hos : ∀ o ∈ os, o.KeepsSides) (h : l ∈ lastKept os) :
    ∃ i o, LastNaming os l i o := by
  induction os with
  | nil => simp [lastKept] at h
  | cons o os ih =>
      obtain ⟨ho, hos⟩ := List.forall_mem_cons.1 hos
      rcases List.mem_append.1 h with h | h
      · obtain ⟨hkept, hlater⟩ := List.mem_filter.1 h
        exact ⟨0, o, lastNaming_head (ho.eq_or_eq hkept) (by simpa using hlater)⟩
      · obtain ⟨i, p, hp⟩ := ih hos h
        exact ⟨i + 1, p, hp.cons o⟩

theorem KeepsSides.pairwise_filter (h : o.KeepsSides) :
    (o.kept.filter fun l => !namedBy os l).Pairwise (SettledBefore (o :: os)) := by
  rw [List.pairwise_filter]
  rcases h with (hk | hk) | ⟨hv, hk⟩
  · rw [hk]
    exact List.pairwise_singleton _ _
  · rw [hk]
    exact List.pairwise_singleton _ _
  · rw [hk, List.pairwise_pair]
    intro ha hb
    rw [Bool.not_eq_true'] at ha hb
    exact ⟨0, o, 0, o, lastNaming_head (.inl rfl) ha, lastNaming_head (.inr rfl) hb,
      .inr ⟨rfl, hv, rfl, rfl⟩⟩

theorem pairwise_lastKept (hos : ∀ o ∈ os, o.KeepsSides) :
    (lastKept os).Pairwise (SettledBefore os) := by
  induction os with
  | nil => exact List.Pairwise.nil
  | cons o os ih =>
      obtain ⟨ho, hos⟩ := List.forall_mem_cons.1 hos
      rw [lastKept, List.pairwise_append]
      refine ⟨ho.pairwise_filter, (ih hos).imp fun h => h.cons o, ?_⟩
      intro l hl m hm
      obtain ⟨hkept, hlater⟩ := List.mem_filter.1 hl
      obtain ⟨j, p, hp⟩ := exists_lastNaming hos hm
      exact ⟨0, o, j + 1, p, lastNaming_head (ho.eq_or_eq hkept) (by simpa using hlater),
        hp.cons o, .inl (Nat.succ_pos j)⟩

end RuleOutcome

/-- The candidates that no outcome names come first, as they stood in the list, and then
those that some outcome names and none throws out, in the order in which they were last
named. -/
def Resolution.LeavesInOrder (res : Resolution) (cs : List Candidate) : Prop :=
  ∃ settled, res.remaining =
      Candidate.within (fun l => !namedBy res.applied l) cs ++ settled ∧
    (∀ c, c ∈ settled ↔ c ∈ cs ∧ namedBy res.applied c.language = true ∧
      ∀ o ∈ res.applied, c.language ∉ o.losers) ∧
    (languages settled).Pairwise (SettledBefore res.applied)

theorem CompiledRule.keepsSides_settle (r : CompiledRule) (text : List Char) :
    (r.settle text).KeepsSides := by
  rcases decided_or_even r text with ⟨-, hk⟩ | ⟨hv, hk, -⟩
  · exact .inl hk
  · exact .inr ⟨hv, hk⟩

namespace ConflictTable

variable {text : List Char} {rules : List CompiledRule} {cs : List Candidate}

theorem languages_lastKept :
    languages ((lastKept (resolveWith text rules cs).applied).filterMap (find? cs)) =
      lastKept (resolveWith text rules cs).applied := by
  rw [languages_filterMap_find?]
  apply List.filter_eq_self.2
  intro l hl
  exact decide_eq_true (namedBy_applied_of_mem_lastKept hl).2

theorem mem_filterMap_lastKept (hcs : (languages cs).Nodup) {c : Candidate} :
    c ∈ (lastKept (resolveWith text rules cs).applied).filterMap (find? cs) ↔
      c ∈ cs ∧ namedBy (resolveWith text rules cs).applied c.language = true ∧
        ∀ o ∈ (resolveWith text rules cs).applied, c.language ∉ o.losers := by
  have hremaining := remaining_resolveWith text rules cs
  constructor
  · intro hc
    obtain ⟨l, hl, hfind⟩ := List.mem_filterMap.1 hc
    obtain ⟨hmem, rfl⟩ := find?_eq_some hfind
    have hleft : c ∈ (resolveWith text rules cs).remaining := by
      rw [hremaining]
      exact List.mem_append_right _ hc
    exact ⟨hmem, (namedBy_applied_of_mem_lastKept hl).1,
      (mem_languages_remaining.1 (language_mem hleft)).2⟩
  · rintro ⟨hc, hnamed, hstays⟩
    have hleft := mem_languages_remaining.2 ⟨language_mem hc, hstays⟩
    rw [hremaining, languages_append, languages_within, List.mem_append] at hleft
    rcases hleft with hidle | hkept
    · simp [hnamed] at hidle
    · obtain ⟨d, hd, hlanguage⟩ := mem_languages.1 hkept
      obtain ⟨l, -, hfind⟩ := List.mem_filterMap.1 hd
      rwa [← eq_of_language_eq hcs (find?_eq_some hfind).1 hc hlanguage]

/-- What a resolution leaves of candidates with different languages, in which order. -/
theorem resolve_leavesInOrder (t : ConflictTable) {cs : List Candidate}
    (hcs : (languages cs).Nodup) (text : List Char) :
    (t.resolve cs text).LeavesInOrder cs := by
  refine ⟨_, remaining_resolveWith text t.rules cs, fun c => mem_filterMap_lastKept hcs, ?_⟩
  have hsides : ∀ o ∈ (resolveWith text t.rules cs).applied, o.KeepsSides := by
    intro o ho
    obtain ⟨r, -, rfl⟩ := exists_rule_of_applied ho
    exact r.keepsSides_settle text
  rw [languages_lastKept]
  exact pairwise_lastKept hsides

/-- JavaScript wins over TypeScript and stays along with Java, so that both of them stand
behind the candidates that no rule names. -/
theorem resolve_leavesInOrder_twoMarkers :
    (twoMarkers.resolve [⟨.java, 1⟩, ⟨.typeScript, 9⟩, ⟨.go, 2⟩, ⟨.javaScript, 1⟩, ⟨.css, 3⟩]
        "x => y".toList).remaining =
      [⟨.go, 2⟩, ⟨.css, 3⟩, ⟨.javaScript, 1⟩, ⟨.java, 1⟩] ∧
    (twoMarkers.resolve [⟨.java, 1⟩, ⟨.typeScript, 9⟩, ⟨.go, 2⟩, ⟨.javaScript, 1⟩, ⟨.css, 3⟩]
        "x => y".toList).LeavesInOrder
      [⟨.java, 1⟩, ⟨.typeScript, 9⟩, ⟨.go, 2⟩, ⟨.javaScript, 1⟩, ⟨.css, 3⟩] :=
  ⟨by decide +kernel, resolve_leavesInOrder twoMarkers (by decide) _⟩

end ConflictTable

end ChatTriage
