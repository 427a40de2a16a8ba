import ChatTriage.Proofs.FixedPoint
import ChatTriage.Proofs.Lead

/-!
# Candidates that beat their rivals

A rule favours the side with more markers, and of two sides with equally many the one of
higher weight. A candidate against which no rule favours a rival is left at the end, and
one that all rules with its rivals favour is left without them, wherever these rules stand
in the table and however few votes the candidate has.
-/

namespace ChatTriage

open Candidate

inductive Side
  | a
  | b
deriving DecidableEq, Repr

namespace Side

def other : Side → Side
  | a => b
  | b => a

@[simp] theorem other_other (s : Side) : s.other.other = s := by
  cases s <;> rfl

theorem eq_or_eq_other (s s' : Side) : s' = s ∨ s' = s.other := by
  cases s <;> cases s' <;> simp [other]

instance decidableForall {p : Side → Prop} [DecidablePred p] : Decidable (∀ s, p s) :=
  decidable_of_iff (p a ∧ p b)
    ⟨fun h s => by cases s with | a => exact h.1 | b => exact h.2, fun h => ⟨h a, h b⟩⟩

end Side

def ConflictRule.language (r : ConflictRule) : Side → Language
  | .a => r.a
  | .b => r.b

def ConflictRule.weight (r : ConflictRule) : Side → UInt32
  | .a => r.weightA
  | .b => r.weightB

theorem ConflictRule.isAbout_iff_sides {r : ConflictRule} {l m : Language} :
    r.isAbout l m = true ↔ ∃ s : Side, r.language s = l ∧ r.language s.other = m := by
  rw [isAbout_iff]
  constructor
  · rintro (⟨rfl, rfl⟩ | ⟨rfl, rfl⟩)
    · exact ⟨.a, rfl, rfl⟩
    · exact ⟨.b, rfl, rfl⟩
  · rintro ⟨s, rfl, rfl⟩
    cases s with
    | a => exact .inl ⟨rfl, rfl⟩
    | b => exact .inr ⟨rfl, rfl⟩

namespace CompiledRule

def hits (r : CompiledRule) (text : List Char) : Side → Nat
  | .a => Pattern.countHits r.markersA text.toArray
  | .b => Pattern.countHits r.markersB text.toArray

/-- The side has more markers in the text, or equally many and the higher weight. -/
def Favours (r : CompiledRule) (text : List Char) (s : Side) : Prop :=
  r.hits text s.other < r.hits text s ∨
    r.hits text s = r.hits text s.other ∧ r.rule.weight s.other < r.rule.weight s

instance (r : CompiledRule) (text : List Char) (s : Side) : Decidable (r.Favours text s) :=
  inferInstanceAs (Decidable (_ ∨ _ ∧ _))

variable {r : CompiledRule} {text : List Char} {s : Side} {l : Language}

theorem not_favours_other (h : r.Favours text s) : ¬ r.Favours text s.other := by
  unfold Favours at h ⊢
  rw [UInt32.lt_iff_toNat_lt] at h ⊢
  rw [Side.other_other]
  omega

theorem eq_of_favours {s s' : Side} (h : r.Favours text s) (h' : r.Favours text s') :
    s' = s := by
  rcases Side.eq_or_eq_other s s' with heq | rfl
  · exact heq
  · exact absurd h' (not_favours_other h)

theorem favours_or_even (r : CompiledRule) (text : List Char) :
    (∃ s, r.Favours text s ∧ (r.settle text).kept = [r.rule.language s]) ∨
      (r.settle text).verdict = .unresolved ∧ ∀ s, ¬ r.Favours text s := by
  cases settled_settle r text with
  | aByMarkers _ hk hm => exact .inl ⟨.a, .inl hm, hk⟩
  | bByMarkers _ hk hm => exact .inl ⟨.b, .inl hm, hk⟩
  | aByWeight _ hk hm hw => exact .inl ⟨.a, .inr ⟨hm, hw⟩, hk⟩
  | bByWeight _ hk hm hw => exact .inl ⟨.b, .inr ⟨hm.symm, hw⟩, hk⟩
  | both hv _ hm hw =>
      have hhits : r.hits text .a = r.hits text .b := hm
      have hweight : r.rule.weight .a = r.rule.weight .b := hw
      refine .inr ⟨hv, fun s => ?_⟩
      cases s <;> simp [Favours, Side.other, hhits, hweight]

theorem mem_losers_of_kept (hne : r.rule.a ≠ r.rule.b)
    (hk : (r.settle text).kept = [r.rule.language s]) :
    l ∈ (r.settle text).losers ↔ l = r.rule.language s.other := by
  rw [RuleOutcome.mem_losers, hk, settle_a, settle_b, List.mem_singleton]
  cases s <;> grind [ConflictRule.language, Side.other]

/-- A rule throws out the language opposite to the side that it favours. -/
theorem mem_losers_iff (hne : r.rule.a ≠ r.rule.b) :
    l ∈ (r.settle text).losers ↔ ∃ s, r.Favours text s ∧ l = r.rule.language s.other := by
  rcases favours_or_even r text with ⟨s, hs, hk⟩ | ⟨hv, hnone⟩
  · rw [mem_losers_of_kept hne hk]
    refine ⟨fun hl => ⟨s, hs, hl⟩, ?_⟩
    rintro ⟨s', hs', hl⟩
    rwa [eq_of_favours hs hs'] at hl
  · rw [losers_of_unresolved hv]
    simp [hnone]

end CompiledRule

/-! ## Rivals in a table -/

namespace ConflictTable

def AreRivals (rules : List CompiledRule) (l m : Language) : Prop :=
  ∃ r ∈ rules, r.rule.isAbout l m = true

/-- Every rule between the language and one of the others favours the language. -/
def BeatsRivals (rules : List CompiledRule) (text : List Char) (l : Language)
    (others : List Language) : Prop :=
  ∀ r ∈ rules, ∀ s : Side, r.rule.language s = l → r.rule.language s.other ∈ others →
    r.Favours text s

/-- No rule between the language and one of the others favours the other one. -/
def NeverLoses (rules : List CompiledRule) (text : List Char) (l : Language)
    (others : List Language) : Prop :=
  ∀ r ∈ rules, ∀ s : Side, r.rule.language s = l → r.rule.language s.other ∈ others →
    ¬ r.Favours text s.other

instance {rules : List CompiledRule} {l m : Language} : Decidable (AreRivals rules l m) :=
  inferInstanceAs (Decidable (∃ _ ∈ _, _))

instance {rules : List CompiledRule} {text : List Char} {l : Language}
    {others : List Language} : Decidable (BeatsRivals rules text l others) :=
  inferInstanceAs (Decidable (∀ _ ∈ _, ∀ _ : Side, _ → _ → _))

variable {text : List Char} {rules : List CompiledRule} {cs : List Candidate}
  {c : Candidate} {l m : Language}

theorem BeatsRivals.neverLoses {others : List Language}
    (h : BeatsRivals rules text l others) : NeverLoses rules text l others :=
  fun r hr s hl hother => CompiledRule.not_favours_other (h r hr s hl hother)

theorem mem_languages_of_neverLoses (hne : ∀ r ∈ rules, r.rule.a ≠ r.rule.b)
    (hl : l ∈ languages cs) (h : NeverLoses rules text l (languages cs)) :
    l ∈ languages (resolveWith text rules cs).remaining := by
  refine mem_languages_remaining.2 ⟨hl, fun o ho hloser => ?_⟩
  obtain ⟨ha, hb⟩ := applied_languages ho
  obtain ⟨r, hr, rfl⟩ := exists_rule_of_applied ho
  obtain ⟨s, hs, rfl⟩ := (CompiledRule.mem_losers_iff (hne r hr)).1 hloser
  -- The rule has fired, so the side that it favours was a candidate from the start.
  have hrival : r.rule.language s ∈ languages cs := by
    cases s with
    | a => exact ha
    | b => exact hb
  have hlose := h r hr s.other rfl (by rwa [Side.other_other])
  rw [Side.other_other] at hlose
  exact hlose hs

theorem mem_of_mem_languages (hne : ∀ r ∈ rules, r.rule.a ≠ r.rule.b)
    (hcs : (languages cs).Nodup) (hc : c ∈ cs)
    (h : c.language ∈ languages (resolveWith text rules cs).remaining) :
    c ∈ (resolveWith text rules cs).remaining := by
  obtain ⟨d, hd, hlanguage⟩ := mem_languages.1 h
  have hdcs : d ∈ cs := (remaining_subperm text cs hne).subset hd
  rwa [← eq_of_language_eq hcs hdcs hc hlanguage]

theorem rival_gone (hne : ∀ r ∈ rules, r.rule.a ≠ r.rule.b) (hl : l ∈ languages cs)
    (h : BeatsRivals rules text l (languages cs)) (hrival : AreRivals rules l m) :
    m ∉ languages (resolveWith text rules cs).remaining := by
  obtain ⟨r, hr, habout⟩ := hrival
  obtain ⟨s, rfl, rfl⟩ := ConflictRule.isAbout_iff_sides.1 habout
  intro hm
  have hleft := mem_languages_of_neverLoses hne hl h.neverLoses
  have hfavours := h r hr s rfl (languages_remaining_subset hm)
  have hfired : r.settle text ∈ (resolveWith text rules cs).applied := by
    cases s with
    | a => exact (unresolved_of_both_left hne hr hleft hm).1
    | b => exact (unresolved_of_both_left hne hr hm hleft).1
  have hloser := (CompiledRule.mem_losers_iff (hne r hr)).2 ⟨s, hfavours, rfl⟩
  exact (mem_languages_remaining.1 hm).2 _ hfired hloser

theorem remaining_eq_singleton (hne : ∀ r ∈ rules, r.rule.a ≠ r.rule.b)
    (hcs : (languages cs).Nodup) (hc : c ∈ cs)
    (h : BeatsRivals rules text c.language (languages cs))
    (hall : ∀ d ∈ cs, d ≠ c → AreRivals rules c.language d.language) :
    (resolveWith text rules cs).remaining = [c] := by
  have hsub := remaining_subperm text cs hne
  have hnodup : (resolveWith text rules cs).remaining.Nodup :=
    List.Nodup.of_map _ (languages_nodup hsub hcs)
  have hleft : c ∈ (resolveWith text rules cs).remaining :=
    mem_of_mem_languages hne hcs hc
      (mem_languages_of_neverLoses hne (language_mem hc) h.neverLoses)
  refine List.perm_singleton.1 ((List.perm_ext_iff_of_nodup hnodup (by simp)).2 fun d => ?_)
  rw [List.mem_singleton]
  refine ⟨fun hd => ?_, fun hdc => hdc ▸ hleft⟩
  by_contra hdc
  exact rival_gone hne (language_mem hc) h (hall d (hsub.subset hd) hdc) (language_mem hd)

/-- A candidate that beats its rivals is left with its votes, and they are not. If all
others are rivals it is left alone and wins. Not to lose is enough to be left. -/
theorem resolve_beatsRivals {k : PatternCompiler} {source : List ConflictRule}
    {t : ConflictTable} (ht : ofRulesWith k source = .ok t) {cs : List Candidate}
    (hcs : (languages cs).Nodup) {c : Candidate} (hc : c ∈ cs) (text : List Char) :
    (BeatsRivals t.rules text c.language (languages cs) →
      c ∈ (t.resolve cs text).remaining ∧
      (∀ l, AreRivals t.rules c.language l →
        l ∉ languages (t.resolve cs text).remaining) ∧
      ((∀ d ∈ cs, d ≠ c → AreRivals t.rules c.language d.language) →
        (t.resolve cs text).remaining = [c] ∧
          winner (t.resolve cs text).remaining = some c)) ∧
    (NeverLoses t.rules text c.language (languages cs) →
      c ∈ (t.resolve cs text).remaining) := by
  have hne := (valid_of_ofRulesWith ht).sides_ne
  have hleft : NeverLoses t.rules text c.language (languages cs) →
      c ∈ (t.resolve cs text).remaining := fun h =>
    mem_of_mem_languages hne hcs hc (mem_languages_of_neverLoses hne (language_mem hc) h)
  refine ⟨fun h => ⟨hleft h.neverLoses, fun l => rival_gone hne (language_mem hc) h,
    fun hall => ?_⟩, hleft⟩
  have hone : (t.resolve cs text).remaining = [c] :=
    remaining_eq_singleton hne hcs hc h hall
  exact ⟨hone, by rw [hone]; rfl⟩

/-- TypeScript has the fewest votes, and a marker in each of its rules. -/
theorem resolve_beatsRivals_threeRules :
    (threeRuleTable.resolve [⟨.javaScript, 9⟩, ⟨.typeScript, 1⟩, ⟨.java, 4⟩]
      "x: string; enum E".toList).remaining = [⟨.typeScript, 1⟩] ∧
    winner (threeRuleTable.resolve [⟨.javaScript, 9⟩, ⟨.typeScript, 1⟩, ⟨.java, 4⟩]
      "x: string; enum E".toList).remaining = some ⟨.typeScript, 1⟩ := by
  have hbeats : BeatsRivals threeRuleTable.rules "x: string; enum E".toList .typeScript
      [.javaScript, .typeScript, .java] := by
    decide +kernel
  have hall : ∀ d ∈ [(⟨.javaScript, 9⟩ : Candidate), ⟨.typeScript, 1⟩, ⟨.java, 4⟩],
      d ≠ ⟨.typeScript, 1⟩ → AreRivals threeRuleTable.rules .typeScript d.language := by
    decide
  exact ((resolve_beatsRivals ofRules_threeRules (by decide) (by simp) _).1 hbeats).2.2 hall

end ConflictTable

end ChatTriage
