import ChatTriage.Proofs.ByLanguage
import ChatTriage.Proofs.Reordering
import Mathlib.Logic.Relation

/-!
# Rules that commute

Two neighbouring rules without a common language may change places: each fires as before
and leaves the same entries of its own languages, so that the rules behind them meet
candidates that differ only in how languages are mixed. A table in which the rules about
each language stand in the old order is reached by such exchanges, and so it classifies
every text as before.
-/

namespace ChatTriage

open Candidate

namespace ConflictRule

variable {r s p : ConflictRule} {rules rules' front back rest : List ConflictRule}

def Overlaps (r s : ConflictRule) : Prop :=
  ∃ l ∈ r.pair, l ∈ s.pair

instance : Decidable (r.Overlaps s) :=
  inferInstanceAs (Decidable (∃ _ ∈ _, _))

theorem Overlaps.symm (h : r.Overlaps s) : s.Overlaps r :=
  let ⟨l, hr, hs⟩ := h
  ⟨l, hs, hr⟩

def names (l : Language) (r : ConflictRule) : Bool :=
  l ∈ r.pair

theorem names_iff {l : Language} : r.names l = true ↔ l ∈ r.pair :=
  decide_eq_true_iff

/-- The rules in another order, in which those about any one language stand as before. -/
def KeepsOrder (rules rules' : List ConflictRule) : Prop :=
  ∀ l, rules.filter (names l) = rules'.filter (names l)

inductive NeighboursExchanged : List ConflictRule → List ConflictRule → Prop
  | swap {r s : ConflictRule} (before after : List ConflictRule) (h : ¬ r.Overlaps s) :
      NeighboursExchanged (before ++ r :: s :: after) (before ++ s :: r :: after)

theorem NeighboursExchanged.cons (p : ConflictRule) (h : NeighboursExchanged rules rules') :
    NeighboursExchanged (p :: rules) (p :: rules') := by
  cases h with
  | swap before after h => exact .swap (p :: before) after h

theorem NeighboursExchanged.perm (h : NeighboursExchanged rules rules') :
    rules.Perm rules' := by
  cases h with
  | swap before after h => exact (List.Perm.swap _ _ after).append_left before

theorem exchanges_cons (p : ConflictRule)
    (h : Relation.ReflTransGen NeighboursExchanged rules rules') :
    Relation.ReflTransGen NeighboursExchanged (p :: rules) (p :: rules') :=
  h.lift (p :: ·) fun _ _ => NeighboursExchanged.cons p

theorem exchanges_to_front (h : ∀ p ∈ front, ¬ p.Overlaps r) :
    Relation.ReflTransGen NeighboursExchanged (front ++ r :: back)
      (r :: (front ++ back)) := by
  induction front with
  | nil => exact .refl
  | cons p front ih =>
      obtain ⟨hp, hfront⟩ := List.forall_mem_cons.1 h
      have hmoved : Relation.ReflTransGen NeighboursExchanged
          (p :: (front ++ r :: back)) (p :: r :: (front ++ back)) :=
        exchanges_cons p (ih hfront)
      exact hmoved.tail (.swap [] (front ++ back) hp)

theorem names_first (r : ConflictRule) : r.names r.a = true :=
  names_iff.2 (mem_pair.2 (.inl rfl))

/-- The rules of the front about a language of `r` would come first of all those about it. -/
theorem KeepsOrder.filter_front (h : KeepsOrder (front ++ r :: back) (r :: rest))
    (hfront : ∀ p ∈ front, ¬ p.names r.a = true) {l : Language} (hl : l ∈ r.pair) :
    front.filter (names l) = [] := by
  have hfilter := h l
  rw [List.filter_append, List.filter_cons_of_pos (names_iff.2 hl),
    List.filter_cons_of_pos (names_iff.2 hl)] at hfilter
  cases hfirst : front.filter (names l) with
  | nil => rfl
  | cons p ps =>
      rw [hfirst, List.cons_append, List.cons.injEq] at hfilter
      have hp : p ∈ front.filter (names l) := by simp [hfirst]
      have hr : r ∈ front := hfilter.1 ▸ (List.mem_filter.1 hp).1
      exact absurd r.names_first (hfront r hr)

theorem KeepsOrder.exists_front (h : KeepsOrder rules (r :: rest)) :
    ∃ front back, rules = front ++ r :: back ∧ (∀ p ∈ front, ¬ p.Overlaps r) ∧
      KeepsOrder (front ++ back) rest := by
  have hhead := h r.a
  rw [List.filter_cons_of_pos r.names_first] at hhead
  obtain ⟨front, back, rfl, hfront, -, -⟩ := List.filter_eq_cons_iff.1 hhead
  have hnone : ∀ l ∈ r.pair, front.filter (names l) = [] :=
    fun l hl => h.filter_front hfront hl
  refine ⟨front, back, rfl, ?_, ?_⟩
  · rintro p hp ⟨l, hlp, hlr⟩
    exact List.filter_eq_nil_iff.1 (hnone l hlr) p hp (names_iff.2 hlp)
  · intro l
    have hfilter := h l
    rw [List.filter_append] at hfilter ⊢
    by_cases hl : l ∈ r.pair
    · rw [hnone l hl, List.filter_cons_of_pos (names_iff.2 hl),
        List.filter_cons_of_pos (names_iff.2 hl), List.nil_append,
        List.cons.injEq] at hfilter
      rw [hnone l hl, List.nil_append, hfilter.2]
    · have hnot : ¬ r.names l = true := fun hn => hl (names_iff.1 hn)
      rwa [List.filter_cons_of_neg hnot, List.filter_cons_of_neg hnot] at hfilter

theorem KeepsOrder.eq_nil (h : KeepsOrder rules []) : rules = [] := by
  cases rules with
  | nil => rfl
  | cons r rest =>
      have hhead := h r.a
      rw [List.filter_cons_of_pos r.names_first] at hhead
      cases hhead

/-- A table in which the rules about each language keep their order comes about by
exchanges of neighbours without a common language. -/
theorem exchanges_of_keepsOrder (h : KeepsOrder rules rules') :
    Relation.ReflTransGen NeighboursExchanged rules rules' := by
  induction rules' generalizing rules with
  | nil =>
      rw [h.eq_nil]
  | cons r rest ih =>
      obtain ⟨front, back, rfl, hfront, hrest⟩ := h.exists_front
      exact (exchanges_to_front hfront).trans (exchanges_cons r (ih hrest))

end ConflictRule

namespace CompiledRule

variable {r s : CompiledRule} {kept kept' : List Language} {cs : List Candidate}

theorem fires_survivors (h : ¬ r.rule.Overlaps s.rule) (hkept : kept ⊆ s.rule.pair) :
    r.fires (s.survivors kept cs) = r.fires cs := by
  have hfind : ∀ l ∈ r.rule.pair, find? (s.survivors kept cs) l = find? cs l := by
    intro l hl
    exact find?_survivors_of_not_mem hkept fun hs => h ⟨l, hl, hs⟩
  rw [fires, fires, hfind r.rule.a (by simp [ConflictRule.pair]),
    hfind r.rule.b (by simp [ConflictRule.pair])]

theorem within_survivors_comm (h : ¬ r.rule.Overlaps s.rule) (hkept' : kept' ⊆ s.rule.pair)
    {l : Language} (hl : l ∈ r.rule.pair) :
    within (· == l) (s.survivors kept' (r.survivors kept cs)) =
      within (· == l) (r.survivors kept (s.survivors kept' cs)) := by
  have hs : l ∉ s.rule.pair := fun hs => h ⟨l, hl, hs⟩
  have hfind : find? (s.survivors kept' cs) l = find? cs l :=
    find?_survivors_of_not_mem hkept' hs
  rw [within_survivors_of_not_mem hkept' hs, within_survivors_of_mem hl,
    within_survivors_of_mem hl]
  apply List.filterMap_congr
  intro m hm
  obtain rfl : m = l := by simpa using (List.mem_filter.1 hm).2
  exact hfind.symm

theorem survivors_comm (h : ¬ r.rule.Overlaps s.rule) (hkept : kept ⊆ r.rule.pair)
    (hkept' : kept' ⊆ s.rule.pair) (cs : List Candidate) :
    SameByLanguage (s.survivors kept' (r.survivors kept cs))
      (r.survivors kept (s.survivors kept' cs)) := by
  intro l
  by_cases hr : l ∈ r.rule.pair
  · exact within_survivors_comm h hkept' hr
  by_cases hs : l ∈ s.rule.pair
  · exact (within_survivors_comm (fun h' => h h'.symm) hkept hs).symm
  · rw [within_survivors_of_not_mem hkept' hs, within_survivors_of_not_mem hkept hr,
      within_survivors_of_not_mem hkept hr, within_survivors_of_not_mem hkept' hs]

end CompiledRule

/-! ## Tables -/

/-- The resolutions before and after two neighbouring rules have changed places: only their
two outcomes do, if both have fired. -/
structure ExchangedResolution (before : List CompiledRule) (r s : CompiledRule)
    (after : List CompiledRule) (text : List Char) (res res' : Resolution) : Prop
    extends res.SameLeft res' where
  outcomes_exchanged : ∃ front middle back,
    front.Sublist (before.map (·.settle text)) ∧
    middle.Sublist [r.settle text, s.settle text] ∧
    back.Sublist (after.map (·.settle text)) ∧
    res.applied = front ++ middle ++ back ∧
    res'.applied = front ++ middle.reverse ++ back

/-- The same outcomes in any order, and the same entries left for each language. -/
structure Resolution.SameDecisions (res res' : Resolution) : Prop where
  applied_perm : res.applied.Perm res'.applied
  remaining_same : SameByLanguage res.remaining res'.remaining

theorem Resolution.SameDecisions.refl (res : Resolution) : res.SameDecisions res :=
  ⟨.refl _, .refl _⟩

theorem Resolution.SameDecisions.trans {res res' res'' : Resolution}
    (h : res.SameDecisions res') (h' : res'.SameDecisions res'') :
    res.SameDecisions res'' :=
  ⟨h.applied_perm.trans h'.applied_perm, h.remaining_same.trans h'.remaining_same⟩

theorem Resolution.SameDecisions.sameLeft {res res' : Resolution}
    (h : res.SameDecisions res') : res.SameLeft res' :=
  .of_perm h.remaining_same.perm

structure Trace.SameClassification (tr tr' : Trace) : Prop where
  result_eq : tr.result = tr'.result
  gatePassed_eq : tr.gatePassed = tr'.gatePassed
  matchCounts_eq : tr.matchCounts = tr'.matchCounts
  candidates_eq : tr.candidates = tr'.candidates
  ambiguous_eq : tr.ambiguous = tr'.ambiguous
  rules_perm : tr.rules.Perm tr'.rules
  remaining_perm : tr.remaining.Perm tr'.remaining

theorem Trace.SameClassification.refl (tr : Trace) : tr.SameClassification tr :=
  ⟨rfl, rfl, rfl, rfl, rfl, .refl _, .refl _⟩

namespace ConflictTable

variable {k : PatternCompiler} {r s : CompiledRule} {source source' : List ConflictRule}

theorem resolveWith_swap (h : ¬ r.rule.Overlaps s.rule) (text : List Char)
    (cs : List Candidate) :
    (resolveWith text [r, s] cs).applied.Sublist [r.settle text, s.settle text] ∧
      (resolveWith text [s, r] cs).applied = (resolveWith text [r, s] cs).applied.reverse ∧
      SameByLanguage (resolveWith text [r, s] cs).remaining
        (resolveWith text [s, r] cs).remaining := by
  refine ⟨applied_sublist text [r, s] cs, ?_⟩
  have hr : r.fires (s.survivors (s.settle text).kept cs) = r.fires cs :=
    CompiledRule.fires_survivors h (s.kept_subset text)
  have hs : s.fires (r.survivors (r.settle text).kept cs) = s.fires cs :=
    CompiledRule.fires_survivors (fun h' => h h'.symm) (r.kept_subset text)
  by_cases hfr : r.fires cs = true
  · by_cases hfs : s.fires cs = true
    · rw [resolveWith_fires hfr, resolveWith_fires (hs.trans hfs), resolveWith_fires hfs,
        resolveWith_fires (hr.trans hfr)]
      exact ⟨rfl, CompiledRule.survivors_comm h (r.kept_subset text) (s.kept_subset text) cs⟩
    · have hfs' : ¬ s.fires (r.survivors (r.settle text).kept cs) = true := by rwa [hs]
      rw [resolveWith_fires hfr, resolveWith_skips hfs', resolveWith_skips hfs,
        resolveWith_fires hfr]
      exact ⟨rfl, .refl _⟩
  · by_cases hfs : s.fires cs = true
    · have hfr' : ¬ r.fires (s.survivors (s.settle text).kept cs) = true := by rwa [hr]
      rw [resolveWith_skips hfr, resolveWith_fires hfs, resolveWith_skips hfr',
        resolveWith_fires hfs]
      exact ⟨rfl, .refl _⟩
    · rw [resolveWith_skips hfr, resolveWith_skips hfs, resolveWith_skips hfs,
        resolveWith_skips hfr]
      exact ⟨rfl, .refl _⟩

theorem resolveWith_exchange (h : ¬ r.rule.Overlaps s.rule) (text : List Char)
    (before after : List CompiledRule) (cs : List Candidate) :
    ExchangedResolution before r s after text
      (resolveWith text (before ++ r :: s :: after) cs)
      (resolveWith text (before ++ s :: r :: after) cs) ∧
    SameByLanguage (resolveWith text (before ++ r :: s :: after) cs).remaining
      (resolveWith text (before ++ s :: r :: after) cs).remaining := by
  have hsplit : ∀ p q : CompiledRule,
      resolveWith text (before ++ p :: q :: after) cs =
        resolveWith text (before ++ ([p, q] ++ after)) cs := fun _ _ => rfl
  obtain ⟨hmiddle, hreverse, hsame⟩ :=
    resolveWith_swap h text (resolveWith text before cs).remaining
  obtain ⟨happlied, hremaining⟩ := resolveWith_sameByLanguage text after hsame
  rw [hsplit, hsplit]
  simp only [resolveWith_append]
  refine ⟨⟨.of_perm hremaining.perm, _, _, _, applied_sublist text before cs, hmiddle,
    applied_sublist text after _, (List.append_assoc _ _ _).symm, ?_⟩, hremaining⟩
  rw [hreverse, ← happlied, List.append_assoc]

theorem resolveWith_of_exchanged
    (h : ConflictRule.NeighboursExchanged source source') (text : List Char)
    (cs : List Candidate) :
    (resolveWith text (source.map (ConflictRule.compiled k)) cs).SameDecisions
      (resolveWith text (source'.map (ConflictRule.compiled k)) cs) := by
  cases h with
  | @swap r s before after h =>
      have hoverlaps : ¬ (r.compiled k).rule.Overlaps (s.compiled k).rule := h
      obtain ⟨hexchanged, hremaining⟩ := resolveWith_exchange hoverlaps text
        (before.map (ConflictRule.compiled k)) (after.map (ConflictRule.compiled k)) cs
      obtain ⟨front, middle, back, -, -, -, happlied, happlied'⟩ :=
        hexchanged.outcomes_exchanged
      simp only [List.map_append, List.map_cons]
      refine ⟨?_, hremaining⟩
      rw [happlied, happlied']
      exact (middle.reverse_perm.symm.append_left front).append_right back

theorem resolveWith_of_exchanges
    (h : Relation.ReflTransGen ConflictRule.NeighboursExchanged source source')
    (text : List Char) (cs : List Candidate) :
    (resolveWith text (source.map (ConflictRule.compiled k)) cs).SameDecisions
      (resolveWith text (source'.map (ConflictRule.compiled k)) cs) := by
  induction h with
  | refl => exact .refl _
  | tail _ hstep ih => exact ih.trans (resolveWith_of_exchanged hstep text cs)

/-! ## Tables that are built -/

theorem validRules_perm {rules rules' : List CompiledRule} (h : ValidRules rules)
    (hperm : rules.Perm rules') : ValidRules rules' := by
  refine ⟨fun r hr => h.sides_ne r (hperm.mem_iff.2 hr), ?_⟩
  apply h.pairs_ne.perm hperm
  intro r s habout
  rw [ConflictRule.isAbout_comm]
  exact habout

theorem ofRulesWith_perm {t : ConflictTable} (ht : ofRulesWith k source = .ok t)
    (hperm : source.Perm source') :
    ofRulesWith k source' = .ok ⟨source'.map (ConflictRule.compiled k)⟩ := by
  obtain ⟨rfl, hvalid, hcompile⟩ := ofRulesWith_eq_ok_iff.1 ht
  refine ofRulesWith_eq_ok_iff.2 ⟨rfl, validRules_perm hvalid (hperm.map _), ?_⟩
  intro r hr
  exact hcompile r (hperm.mem_iff.2 hr)

theorem perm_of_exchanges
    (h : Relation.ReflTransGen ConflictRule.NeighboursExchanged source source') :
    source.Perm source' := by
  induction h with
  | refl => exact .refl _
  | tail _ hstep ih => exact ih.trans hstep.perm

end ConflictTable

namespace Classifier

variable {signatures : SignatureTable} {t t' : ConflictTable} {text : List Char}

theorem explain_sameDecisions
    (h : ∀ cs, (t.resolve cs text).SameDecisions (t'.resolve cs text)) :
    (explain ⟨signatures, t⟩ text).SameClassification (explain ⟨signatures, t'⟩ text) := by
  by_cases hgate : CodeShape.PassesGate text
  · by_cases hnone : signatures.scan text = []
    · rw [explain_of_no_hits hgate hnone, explain_of_no_hits hgate hnone]
      exact .refl _
    · have hsame : (resolution ⟨signatures, t⟩ text).SameDecisions
          (resolution ⟨signatures, t'⟩ text) := h _
      obtain ⟨w, hw, htrace⟩ := exists_winner_of_hits (k := ⟨signatures, t⟩) hnone
      obtain ⟨w', hw', htrace'⟩ := exists_winner_of_hits (k := ⟨signatures, t'⟩) hnone
      obtain rfl : w = w' := by
        rw [hsame.sameLeft.winner_eq, hw'] at hw
        exact (Option.some.inj hw).symm
      rw [explain_of_hits hgate hnone, explain_of_hits hgate hnone, htrace, htrace']
      exact ⟨rfl, rfl, rfl, rfl, hsame.sameLeft.tied_eq, hsame.applied_perm,
        hsame.remaining_same.perm⟩
  · rw [explain_of_rejected hgate, explain_of_rejected hgate]
    exact .refl _

end Classifier

namespace ConflictTable

/-- Neighbouring rules without a common language may change places in a table, whatever
the candidates. By such exchanges rules may take any order in which those about each
language stand as before, and every text is classified as before. -/
theorem resolve_exchange {k : PatternCompiler} {source : List ConflictRule}
    {t : ConflictTable} (ht : ofRulesWith k source = .ok t) :
    (∀ before r s after, source = before ++ r :: s :: after → ¬ r.Overlaps s →
      ∃ t', ofRulesWith k (before ++ s :: r :: after) = .ok t' ∧
        ∀ cs text,
          ExchangedResolution (before.map (ConflictRule.compiled k)) (r.compiled k)
            (s.compiled k) (after.map (ConflictRule.compiled k)) text (t.resolve cs text)
            (t'.resolve cs text)) ∧
    (∀ source', ConflictRule.KeepsOrder source source' →
      ∃ t', ofRulesWith k source' = .ok t' ∧
        (∀ cs text, (t.resolve cs text).SameLeft (t'.resolve cs text) ∧
          (t.resolve cs text).applied.Perm (t'.resolve cs text).applied) ∧
        ∀ signatures text, (Classifier.explain ⟨signatures, t⟩ text).SameClassification
          (Classifier.explain ⟨signatures, t'⟩ text)) := by
  obtain rfl := ofRulesWith_eq_ok ht
  constructor
  · rintro before r s after rfl hoverlaps
    have hperm := (ConflictRule.NeighboursExchanged.swap before after hoverlaps).perm
    refine ⟨_, ofRulesWith_perm ht hperm, fun cs text => ?_⟩
    have hcompiled : ¬ (r.compiled k).rule.Overlaps (s.compiled k).rule := hoverlaps
    simp only [resolve, List.map_append, List.map_cons]
    exact (resolveWith_exchange hcompiled text _ _ cs).1
  · intro source' horder
    have hexchanges := ConflictRule.exchanges_of_keepsOrder horder
    have hsame : ∀ cs text,
        (resolve ⟨source.map (ConflictRule.compiled k)⟩ cs text).SameDecisions
          (resolve ⟨source'.map (ConflictRule.compiled k)⟩ cs text) := fun cs text =>
      resolveWith_of_exchanges hexchanges text cs
    refine ⟨_, ofRulesWith_perm ht (perm_of_exchanges hexchanges), fun cs text => ?_,
      fun signatures text => Classifier.explain_sameDecisions fun cs => hsame cs text⟩
    exact ⟨(hsame cs text).sameLeft, (hsame cs text).applied_perm⟩

def openRules : List ConflictRule :=
  [⟨.javaScript, 5, ["=>"], .typeScript, 5, [": string"]⟩,
    ⟨.python, 5, ["def "], .ruby, 5, ["end"]⟩,
    ⟨.typeScript, 6, ["enum"], .java, 6, ["throws"]⟩]

theorem ofRules_openRules : ofRules openRules = .ok ⟨openRules.map ConflictRule.read⟩ :=
  ofRules_of_toBool (by decide +kernel)

/-- The ties of both pairs stay open, and the pairs are left in the order of their rules.
In the reordered table the rule between Python and Ruby comes last. -/
theorem resolve_exchange_openRules :
    (∃ t', ofRules [openRules[1], openRules[0], openRules[2]] = .ok t' ∧
      ExchangedResolution [] openRules[0].read openRules[1].read [openRules[2].read]
        "x".toList
        (resolve ⟨openRules.map ConflictRule.read⟩
          [⟨.ruby, 3⟩, ⟨.javaScript, 1⟩, ⟨.python, 4⟩, ⟨.typeScript, 4⟩] "x".toList)
        (t'.resolve [⟨.ruby, 3⟩, ⟨.javaScript, 1⟩, ⟨.python, 4⟩, ⟨.typeScript, 4⟩]
          "x".toList)) ∧
    (∃ t', ofRules [openRules[0], openRules[2], openRules[1]] = .ok t' ∧
      ((resolve ⟨openRules.map ConflictRule.read⟩
          [⟨.ruby, 3⟩, ⟨.javaScript, 1⟩, ⟨.python, 4⟩, ⟨.typeScript, 4⟩] "x".toList).SameLeft
        (t'.resolve [⟨.ruby, 3⟩, ⟨.javaScript, 1⟩, ⟨.python, 4⟩, ⟨.typeScript, 4⟩]
          "x".toList))) := by
  obtain ⟨hexchange, hreorder⟩ := resolve_exchange ofRules_openRules
  have horder : ConflictRule.KeepsOrder openRules
      [openRules[0], openRules[2], openRules[1]] := by
    intro l
    cases l <;> rfl
  obtain ⟨t, ht, hexchanged⟩ :=
    hexchange [] openRules[0] openRules[1] [openRules[2]] rfl (by decide)
  obtain ⟨t', ht', hsame, -⟩ := hreorder _ horder
  have hread := compiled_eq_read_of_ofRules ofRules_openRules
  refine ⟨⟨t, ht, ?_⟩, t', ht', (hsame _ _).1⟩
  rw [← hread openRules[0] (by decide), ← hread openRules[1] (by decide),
    ← hread openRules[2] (by decide)]
  exact hexchanged _ _

end ConflictTable

end ChatTriage
