import ChatTriage.Conflict.Catalog
import ChatTriage.Proofs.Compile
import Mathlib.Data.Sym.Sym2

/-!
# Tables that were checked

A table that was built without an error has two different languages on the sides of each
rule and no pair of languages twice. The catalog has both properties, and none of its
rules leaves a tie open.
-/

namespace ChatTriage

/-- Every rule has two different sides, and no two rules are about one pair. -/
structure ValidRules (rules : List CompiledRule) : Prop where
  sides_ne : ∀ r ∈ rules, r.rule.a ≠ r.rule.b
  pairs_ne : rules.Pairwise fun r s => r.rule.isAbout s.rule.a s.rule.b = false

theorem ConflictRule.isAbout_iff {r : ConflictRule} {x y : Language} :
    r.isAbout x y = true ↔ (r.a = x ∧ r.b = y) ∨ (r.a = y ∧ r.b = x) := by
  simp [isAbout]

theorem ConflictRule.isAbout_iff_pair {r : ConflictRule} {x y : Language} :
    r.isAbout x y = true ↔ s(r.a, r.b) = s(x, y) := by
  rw [isAbout_iff, Sym2.eq_iff]

theorem ConflictRule.isAbout_eq_false_iff {r : ConflictRule} {x y : Language} :
    r.isAbout x y = false ↔ s(r.a, r.b) ≠ s(x, y) := by
  rw [← Bool.not_eq_true, isAbout_iff_pair]

theorem ConflictRule.isAbout_symm (r : ConflictRule) (x y : Language) :
    r.isAbout x y = r.isAbout y x :=
  Bool.or_comm _ _

theorem ConflictRule.isAbout_comm (r s : ConflictRule) :
    r.isAbout s.a s.b = s.isAbout r.a r.b := by
  rw [Bool.eq_iff_iff, isAbout_iff, isAbout_iff]
  constructor <;> rintro (⟨ha, hb⟩ | ⟨ha, hb⟩) <;> simp [ha, hb]

namespace ValidRules

variable {r : CompiledRule} {rules earlier later : List CompiledRule}

theorem nil : ValidRules [] :=
  ⟨by simp, List.Pairwise.nil⟩

theorem head (h : ValidRules (r :: rules)) : r.rule.a ≠ r.rule.b :=
  h.sides_ne r (by simp)

theorem tail (h : ValidRules (r :: rules)) : ValidRules rules :=
  ⟨fun s hs => h.sides_ne s (List.mem_cons_of_mem r hs), h.pairs_ne.of_cons⟩

theorem pair_unique (h : ValidRules (earlier ++ r :: later)) {s : CompiledRule}
    (hs : s ∈ earlier ++ later) : s.rule.isAbout r.rule.a r.rule.b = false := by
  obtain ⟨-, hrest, hcross⟩ := List.pairwise_append.1 h.pairs_ne
  rcases List.mem_append.1 hs with hs | hs
  · exact hcross s hs r (by simp)
  · rw [ConflictRule.isAbout_comm]
    exact (List.pairwise_cons.1 hrest).1 s hs

end ValidRules

/-! ## Tables built from rules -/

namespace ConflictTable

variable {k : PatternCompiler} {rules earlier rest : List ConflictRule} {r : ConflictRule}
  {c : CompiledRule} {cs : List CompiledRule} {t : ConflictTable}

theorem compileAfter_cons_eq_ok (h : compileAfter k earlier (r :: rest) = .ok cs) :
    r.a ≠ r.b ∧ (∀ e ∈ earlier, e.isAbout r.a r.b = false) ∧
      ∃ c others, r.compile k = .ok c ∧ compileAfter k (r :: earlier) rest = .ok others ∧
        cs = c :: others := by
  unfold compileAfter at h
  split at h
  · cases h
  · next hne =>
      split at h
      · cases h
      · next hnew =>
          refine ⟨hne, fun e he => ?_, ?_⟩
          · exact Bool.eq_false_iff.2 fun habout =>
              hnew (List.any_eq_true.2 ⟨e, he, habout⟩)
          · cases hc : r.compile k with
            | error e => simp [hc, bind, Except.bind] at h
            | ok c =>
                cases ho : compileAfter k (r :: earlier) rest with
                | error e => simp [hc, ho, bind, Except.bind] at h
                | ok others =>
                    simp only [hc, ho, bind, Except.bind, pure, Except.pure,
                      Except.ok.injEq] at h
                    exact ⟨c, others, rfl, rfl, h.symm⟩

theorem compileAfter_cons_of_ok (hsides : r.a ≠ r.b)
    (hnew : ∀ e ∈ earlier, e.isAbout r.a r.b = false) (hc : r.compile k = .ok c) :
    compileAfter k earlier (r :: rest) =
      (compileAfter k (r :: earlier) rest).map (c :: ·) := by
  have hany : earlier.any (·.isAbout r.a r.b) = false := by simpa using hnew
  rw [compileAfter, if_neg hsides, hany, hc]
  cases compileAfter k (r :: earlier) rest <;> rfl

theorem compileAfter_eq_ok (h : compileAfter k earlier rules = .ok cs) :
    cs = rules.map (ConflictRule.compiled k) := by
  induction rules generalizing earlier cs with
  | nil =>
      cases h
      rfl
  | cons r rest ih =>
      obtain ⟨-, -, c, others, hc, ho, rfl⟩ := compileAfter_cons_eq_ok h
      rw [ConflictRule.compile_eq_ok hc, ih ho, List.map_cons]

theorem compileAfter_valid (h : compileAfter k earlier rules = .ok cs) :
    ValidRules cs ∧
      ∀ e ∈ earlier, ∀ c ∈ cs, e.isAbout c.rule.a c.rule.b = false := by
  induction rules generalizing earlier cs with
  | nil =>
      cases h
      exact ⟨ValidRules.nil, by simp⟩
  | cons r rest ih =>
      obtain ⟨hne, hnew, c, others, hc, ho, rfl⟩ := compileAfter_cons_eq_ok h
      obtain ⟨hvalid, hearlier⟩ := ih ho
      obtain rfl := ConflictRule.compile_eq_ok hc
      refine ⟨⟨?_, ?_⟩, fun e he => ?_⟩
      · exact List.forall_mem_cons.2 ⟨hne, hvalid.sides_ne⟩
      · exact List.pairwise_cons.2 ⟨hearlier r (by simp), hvalid.pairs_ne⟩
      · exact List.forall_mem_cons.2 ⟨hnew e he, hearlier e (List.mem_cons_of_mem r he)⟩

theorem compile_of_compileAfter (h : compileAfter k earlier rules = .ok cs) :
    ∀ r ∈ rules, r.compile k = .ok (r.compiled k) := by
  induction rules generalizing earlier cs with
  | nil => simp
  | cons r rest ih =>
      obtain ⟨-, -, c, others, hc, ho, rfl⟩ := compileAfter_cons_eq_ok h
      obtain rfl := ConflictRule.compile_eq_ok hc
      exact List.forall_mem_cons.2 ⟨hc, ih ho⟩

theorem compileAfter_of_valid (hsides : ∀ r ∈ rules, r.a ≠ r.b)
    (hpairs : rules.Pairwise fun r s => r.isAbout s.a s.b = false)
    (hearlier : ∀ e ∈ earlier, ∀ r ∈ rules, e.isAbout r.a r.b = false)
    (hcompile : ∀ r ∈ rules, r.compile k = .ok (r.compiled k)) :
    compileAfter k earlier rules = .ok (rules.map (ConflictRule.compiled k)) := by
  induction rules generalizing earlier with
  | nil => rfl
  | cons r rest ih =>
      obtain ⟨hr, hsides⟩ := List.forall_mem_cons.1 hsides
      obtain ⟨hlater, hpairs⟩ := List.pairwise_cons.1 hpairs
      obtain ⟨hc, hcompile⟩ := List.forall_mem_cons.1 hcompile
      have hnew : ∀ e ∈ earlier, e.isAbout r.a r.b = false := fun e he =>
        hearlier e he r (by simp)
      have hrest : compileAfter k (r :: earlier) rest =
          .ok (rest.map (ConflictRule.compiled k)) :=
        ih hsides hpairs
          (List.forall_mem_cons.2
            ⟨hlater, fun e he s hs => hearlier e he s (List.mem_cons_of_mem r hs)⟩)
          hcompile
      rw [compileAfter_cons_of_ok hr hnew hc, hrest]
      rfl

theorem compileAfter_of_ofRulesWith (h : ofRulesWith k rules = .ok t) :
    compileAfter k [] rules = .ok t.rules := by
  unfold ofRulesWith at h
  cases hc : compileAfter k [] rules with
  | error e => simp [hc, Except.map] at h
  | ok cs =>
      simp only [hc, Except.map, Except.ok.injEq] at h
      rw [← h]

theorem ofRulesWith_eq_ok (h : ofRulesWith k rules = .ok t) :
    t = ⟨rules.map (ConflictRule.compiled k)⟩ := by
  rw [← compileAfter_eq_ok (compileAfter_of_ofRulesWith h)]

theorem valid_of_ofRulesWith (h : ofRulesWith k rules = .ok t) : ValidRules t.rules :=
  (compileAfter_valid (compileAfter_of_ofRulesWith h)).1

/-- A table is built exactly when no rule is about one language alone or about the pair
of another rule, and all markers compile. -/
theorem ofRulesWith_eq_ok_iff :
    ofRulesWith k rules = .ok t ↔
      t = ⟨rules.map (ConflictRule.compiled k)⟩ ∧ ValidRules t.rules ∧
        ∀ r ∈ rules, r.compile k = .ok (r.compiled k) := by
  constructor
  · intro h
    exact ⟨ofRulesWith_eq_ok h, valid_of_ofRulesWith h,
      compile_of_compileAfter (compileAfter_of_ofRulesWith h)⟩
  · rintro ⟨rfl, hvalid, hcompile⟩
    have hsides : ∀ r ∈ rules, r.a ≠ r.b := fun r hr =>
      hvalid.sides_ne (r.compiled k) (List.mem_map_of_mem hr)
    have hpairs : rules.Pairwise fun r s => r.isAbout s.a s.b = false :=
      List.pairwise_map.1 hvalid.pairs_ne
    rw [ofRulesWith, compileAfter_of_valid hsides hpairs (by simp) hcompile]
    rfl

theorem compiled_eq_read_of_ofRules (h : ofRules rules = .ok t) :
    ∀ r ∈ rules, r.compiled .standard = r.read := by
  obtain ⟨-, -, hcompile⟩ := ofRulesWith_eq_ok_iff.1 h
  exact fun r hr => ConflictRule.compiled_eq_read (hcompile r hr)

theorem ofRules_eq_ok (h : ofRules rules = .ok t) : t = ⟨rules.map ConflictRule.read⟩ := by
  rw [ofRulesWith_eq_ok h, List.map_congr_left (compiled_eq_read_of_ofRules h)]

theorem ofRules_of_toBool (h : (ofRules rules).toBool = true) :
    ofRules rules = .ok ⟨rules.map ConflictRule.read⟩ := by
  cases ht : ofRules rules with
  | error e => simp [ht, Except.toBool] at h
  | ok t => rw [ofRules_eq_ok ht]

/-- A rule that markers decide, one that is even and one that only weights decide. -/
def threeRules : List ConflictRule :=
  [⟨.javaScript, 5, ["=>"], .typeScript, 6, [": string"]⟩,
    ⟨.typeScript, 6, ["enum"], .java, 6, ["throws"]⟩,
    ⟨.java, 1, ["class "], .go, 2, []⟩]

def threeRuleTable : ConflictTable :=
  ⟨threeRules.map ConflictRule.read⟩

theorem ofRules_threeRules : ofRules threeRules = .ok threeRuleTable :=
  ofRules_of_toBool (by decide +kernel)

theorem builtin_rule_mem {r : CompiledRule} (h : r ∈ builtin.rules) :
    r.rule ∈ Conflict.catalog := by
  obtain ⟨s, hs, rfl⟩ := List.mem_map.1 h
  exact hs

theorem builtin_valid : ValidRules builtin.rules := by
  have hsides : ∀ r ∈ Conflict.catalog, r.a ≠ r.b := by decide
  have hpairs : Conflict.catalog.Pairwise fun r s => r.isAbout s.a s.b = false := by decide
  refine ⟨fun r hr => hsides _ (builtin_rule_mem hr), ?_⟩
  exact List.pairwise_map.2 hpairs

theorem builtin_weights_ne {r : CompiledRule} (h : r ∈ builtin.rules) :
    r.rule.weightA ≠ r.rule.weightB := by
  have hweights : ∀ r ∈ Conflict.catalog, r.weightA ≠ r.weightB := by decide
  exact hweights _ (builtin_rule_mem h)

end ConflictTable

end ChatTriage
