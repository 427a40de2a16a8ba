import ChatTriage.Proofs.ConflictTable

/-!
# The first defect of a list of rules

Rules are checked one after the other, and each in a fixed order: its two languages, its pair
against the pairs in front of it, the markers of side a, those of side b. A table holds all
its rules, or the error tells the first defect of the first rule that has one, and what stands
behind that rule is not looked at.
-/

namespace ChatTriage

namespace PatternCompiler

variable {k : PatternCompiler} {sources : List String} {source : String} {table : TableKind}
  {l : Language} {ps : List Pattern}

/-- Size is no reason to refuse the list or to take it: it compiles exactly when each of its
patterns would on its own. -/
def SizeIgnored (k : PatternCompiler) (sources : List String) : Prop :=
  (k.compileList? sources).isSome = true ↔ ∀ s ∈ sources, k.isValid s = true

instance (k : PatternCompiler) (sources : List String) : Decidable (k.SizeIgnored sources) :=
  inferInstanceAs (Decidable (_ ↔ _))

def IsFirstInvalid (k : PatternCompiler) (sources : List String) (source : String) : Prop :=
  k.isValid source = false ∧
    ∃ front back, sources = front ++ source :: back ∧ ∀ s ∈ front, k.isValid s = true

theorem find?_not_isValid :
    sources.find? (!k.isValid ·) = some source ↔ k.IsFirstInvalid sources source := by
  rw [List.find?_eq_some_iff_append, IsFirstInvalid]
  simp

theorem valid_or_firstInvalid (k : PatternCompiler) (sources : List String) :
    (∀ s ∈ sources, k.isValid s = true) ∨ ∃ source, k.IsFirstInvalid sources source := by
  cases h : sources.find? (!k.isValid ·) with
  | none => exact .inl (by simpa using h)
  | some source => exact .inr ⟨source, find?_not_isValid.1 h⟩

theorem IsFirstInvalid.not_valid (h : k.IsFirstInvalid sources source) :
    ¬ ∀ s ∈ sources, k.isValid s = true := by
  obtain ⟨hinvalid, front, back, rfl, -⟩ := h
  intro hvalid
  rw [hvalid source (by simp)] at hinvalid
  cases hinvalid

theorem compileAll_of_some (h : k.compileList? sources = some ps) :
    k.compileAll table l sources = .ok ps := by
  rw [compileAll, h]

theorem compileAll_of_firstInvalid (hsize : k.SizeIgnored sources)
    (h : k.IsFirstInvalid sources source) :
    k.compileAll table l sources = .error (.invalidPattern table l source) := by
  have hnone : k.compileList? sources = none :=
    Option.not_isSome_iff_eq_none.1 fun hsome => h.not_valid (hsize.1 hsome)
  rw [compileAll, hnone, find?_not_isValid.2 h]
  rfl

end PatternCompiler

namespace ConflictRule

variable {k : PatternCompiler} {earlier rules : List ConflictRule} {r : ConflictRule}
  {e : TableError}

def SizeIgnored (k : PatternCompiler) (r : ConflictRule) : Prop :=
  k.SizeIgnored r.markersA ∧ k.SizeIgnored r.markersB

instance (k : PatternCompiler) (r : ConflictRule) : Decidable (r.SizeIgnored k) :=
  inferInstanceAs (Decidable (_ ∧ _))

/-- What the error tells of a rule that stands behind the `earlier` ones. Where several things
are wrong with the rule it tells the first of them in the order of the constructors. -/
inductive Defect (k : PatternCompiler) (earlier : List ConflictRule) (r : ConflictRule) :
    TableError → Prop
  | selfConflict (hsides : r.a = r.b) : Defect k earlier r (.selfConflict r.a)
  | duplicateRule (hsides : r.a ≠ r.b) (hpair : ∃ q ∈ earlier, s(q.a, q.b) = s(r.a, r.b)) :
      Defect k earlier r (.duplicateRule r.a r.b)
  | markersA (hsides : r.a ≠ r.b) (hpair : ∀ q ∈ earlier, s(q.a, q.b) ≠ s(r.a, r.b))
      {source : String} (hsource : k.IsFirstInvalid r.markersA source) :
      Defect k earlier r (.invalidPattern .conflict r.a source)
  | markersB (hsides : r.a ≠ r.b) (hpair : ∀ q ∈ earlier, s(q.a, q.b) ≠ s(r.a, r.b))
      (hmarkersA : ∀ source ∈ r.markersA, k.isValid source = true)
      {source : String} (hsource : k.IsFirstInvalid r.markersB source) :
      Defect k earlier r (.invalidPattern .conflict r.b source)

structure IsSound (k : PatternCompiler) (earlier : List ConflictRule) (r : ConflictRule) :
    Prop where
  sides_ne : r.a ≠ r.b
  pair_ne : ∀ q ∈ earlier, s(q.a, q.b) ≠ s(r.a, r.b)
  valid_markersA : ∀ source ∈ r.markersA, k.isValid source = true
  valid_markersB : ∀ source ∈ r.markersB, k.isValid source = true

theorem isSound_or_defect (k : PatternCompiler) (earlier : List ConflictRule)
    (r : ConflictRule) : r.IsSound k earlier ∨ ∃ e, r.Defect k earlier e := by
  by_cases hsides : r.a = r.b
  · exact .inr ⟨_, .selfConflict hsides⟩
  by_cases hpair : ∃ q ∈ earlier, s(q.a, q.b) = s(r.a, r.b)
  · exact .inr ⟨_, .duplicateRule hsides hpair⟩
  have hnew : ∀ q ∈ earlier, s(q.a, q.b) ≠ s(r.a, r.b) := fun q hq h => hpair ⟨q, hq, h⟩
  rcases k.valid_or_firstInvalid r.markersA with hA | ⟨source, hsource⟩
  · rcases k.valid_or_firstInvalid r.markersB with hB | ⟨source, hsource⟩
    · exact .inl ⟨hsides, hnew, hA, hB⟩
    · exact .inr ⟨_, .markersB hsides hnew hA hsource⟩
  · exact .inr ⟨_, .markersA hsides hnew hsource⟩

theorem Defect.reverse (h : r.Defect k earlier e) : r.Defect k earlier.reverse e := by
  cases h with
  | selfConflict hsides => exact .selfConflict hsides
  | duplicateRule hsides hpair => exact .duplicateRule hsides (by simpa using hpair)
  | markersA hsides hpair hsource => exact .markersA hsides (by simpa using hpair) hsource
  | markersB hsides hpair hA hsource =>
      exact .markersB hsides (by simpa using hpair) hA hsource

theorem compile_of_valid (hsize : r.SizeIgnored k)
    (hA : ∀ source ∈ r.markersA, k.isValid source = true)
    (hB : ∀ source ∈ r.markersB, k.isValid source = true) :
    r.compile k = .ok (r.compiled k) :=
  compile_iff.2 ⟨hsize.1.2 hA, hsize.2.2 hB⟩

theorem compile_of_firstInvalidA {source : String} (hsize : r.SizeIgnored k)
    (h : k.IsFirstInvalid r.markersA source) :
    r.compile k = .error (.invalidPattern .conflict r.a source) := by
  rw [compile, PatternCompiler.compileAll_of_firstInvalid hsize.1 h]
  rfl

theorem compile_of_firstInvalidB {source : String} (hsize : r.SizeIgnored k)
    (hA : ∀ s ∈ r.markersA, k.isValid s = true) (h : k.IsFirstInvalid r.markersB source) :
    r.compile k = .error (.invalidPattern .conflict r.b source) := by
  obtain ⟨markersA, hmarkersA⟩ := Option.isSome_iff_exists.1 (hsize.1.2 hA)
  rw [compile, PatternCompiler.compileAll_of_some hmarkersA,
    PatternCompiler.compileAll_of_firstInvalid hsize.2 h]
  rfl

end ConflictRule

/-! ## Rows of rules -/

/-- No rule is about one language alone, no two are about one pair, and every marker is
valid. -/
structure SoundRules (k : PatternCompiler) (rules : List ConflictRule) : Prop where
  sides_ne : ∀ r ∈ rules, r.a ≠ r.b
  pairs_ne : rules.Pairwise fun q r => s(q.a, q.b) ≠ s(r.a, r.b)
  valid_markers : ∀ r ∈ rules, ∀ source ∈ r.markersA ++ r.markersB, k.isValid source = true

theorem SoundRules.concat {k : PatternCompiler} {rules : List ConflictRule} {r : ConflictRule}
    (hrules : SoundRules k rules) (hr : r.IsSound k rules) : SoundRules k (rules ++ [r]) where
  sides_ne := by
    rw [List.forall_mem_append, List.forall_mem_singleton]
    exact ⟨hrules.sides_ne, hr.sides_ne⟩
  pairs_ne := by
    refine List.pairwise_append.2 ⟨hrules.pairs_ne, List.pairwise_singleton _ _, ?_⟩
    simpa using hr.pair_ne
  valid_markers := by
    rw [List.forall_mem_append, List.forall_mem_singleton, List.forall_mem_append]
    exact ⟨hrules.valid_markers, hr.valid_markersA, hr.valid_markersB⟩

theorem sound_or_firstDefect (k : PatternCompiler) (rules : List ConflictRule) :
    SoundRules k rules ∨ ∃ before r after e, rules = before ++ r :: after ∧
      SoundRules k before ∧ r.Defect k before e := by
  -- From the end on, for a rule is sound or not by the rules in front of it.
  induction rules using List.reverseRecOn with
  | nil => exact .inl ⟨by simp, List.Pairwise.nil, by simp⟩
  | append_singleton rules r ih =>
      rcases ih with hsound | ⟨before, q, after, e, rfl, hsound, hdefect⟩
      · rcases r.isSound_or_defect k rules with hr | ⟨e, he⟩
        · exact .inl (hsound.concat hr)
        · exact .inr ⟨rules, r, [], e, rfl, hsound, he⟩
      · exact .inr ⟨before, q, after ++ [r], e, by simp, hsound, hdefect⟩

namespace ConflictTable

variable {k : PatternCompiler} {rules earlier before after rest : List ConflictRule}
  {r : ConflictRule} {e : TableError} {t : ConflictTable}

theorem ofRulesWith_of_sound (hsize : ∀ r ∈ rules, r.SizeIgnored k)
    (h : SoundRules k rules) :
    ofRulesWith k rules = .ok ⟨rules.map (ConflictRule.compiled k)⟩ := by
  refine ofRulesWith_eq_ok_iff.2 ⟨rfl, ⟨?_, ?_⟩, fun r hr => ?_⟩
  · exact List.forall_mem_map.2 h.sides_ne
  · exact List.pairwise_map.2 (h.pairs_ne.imp ConflictRule.isAbout_eq_false_iff.2)
  · obtain ⟨hA, hB⟩ := List.forall_mem_append.1 (h.valid_markers r hr)
    exact ConflictRule.compile_of_valid (hsize r hr) hA hB

theorem compileAfter_append {cs : List CompiledRule}
    (h : compileAfter k earlier before = .ok cs) :
    compileAfter k earlier (before ++ rest) =
      (compileAfter k (before.reverse ++ earlier) rest).map (cs ++ ·) := by
  induction before generalizing earlier cs with
  | nil =>
      cases h
      rw [List.nil_append, List.reverse_nil, List.nil_append]
      cases compileAfter k earlier rest <;> rfl
  | cons r before ih =>
      obtain ⟨hsides, hnew, c, others, hc, hothers, rfl⟩ := compileAfter_cons_eq_ok h
      rw [List.cons_append, compileAfter_cons_of_ok hsides hnew hc, ih hothers,
        List.reverse_cons, List.append_assoc, List.singleton_append]
      cases compileAfter k (before.reverse ++ r :: earlier) rest <;> rfl

theorem compileAfter_of_defect (hsize : r.SizeIgnored k) (h : r.Defect k earlier e) :
    compileAfter k earlier (r :: after) = .error e := by
  have hnew : (∀ q ∈ earlier, s(q.a, q.b) ≠ s(r.a, r.b)) →
      earlier.any (·.isAbout r.a r.b) = false := by
    intro hpair
    rw [List.any_eq_false]
    exact fun q hq habout => hpair q hq (ConflictRule.isAbout_iff_pair.1 habout)
  cases h with
  | selfConflict hsides => rw [compileAfter, if_pos hsides]
  | duplicateRule hsides hpair =>
      obtain ⟨q, hq, heq⟩ := hpair
      have hany : earlier.any (·.isAbout r.a r.b) = true :=
        List.any_eq_true.2 ⟨q, hq, ConflictRule.isAbout_iff_pair.2 heq⟩
      rw [compileAfter, if_neg hsides, if_pos hany]
  | markersA hsides hpair hsource =>
      rw [compileAfter, if_neg hsides, hnew hpair,
        ConflictRule.compile_of_firstInvalidA hsize hsource]
      rfl
  | markersB hsides hpair hA hsource =>
      rw [compileAfter, if_neg hsides, hnew hpair,
        ConflictRule.compile_of_firstInvalidB hsize hA hsource]
      rfl

/-- Behind sound rules the defect of a rule is the answer, whatever comes after it. -/
theorem ofRulesWith_of_firstDefect (hsize : ∀ q ∈ before ++ [r], q.SizeIgnored k)
    (hsound : SoundRules k before) (hdefect : r.Defect k before e) :
    ofRulesWith k (before ++ r :: after) = .error e := by
  obtain ⟨hbefore, hr⟩ := List.forall_mem_append.1 hsize
  have hok := compileAfter_of_ofRulesWith (ofRulesWith_of_sound hbefore hsound)
  -- The rules that have passed are kept last first.
  have herror : compileAfter k (before.reverse ++ []) (r :: after) = .error e := by
    rw [List.append_nil]
    exact compileAfter_of_defect (hr r List.mem_cons_self) hdefect.reverse
  rw [ofRulesWith, compileAfter_append hok, herror]
  rfl

theorem ofRulesWith_eq_error_iff (hsize : ∀ r ∈ rules, r.SizeIgnored k) :
    ofRulesWith k rules = .error e ↔ ∃ before r after, rules = before ++ r :: after ∧
      SoundRules k before ∧ r.Defect k before e := by
  have hfirst : ∀ {before r after e}, rules = before ++ r :: after → SoundRules k before →
      r.Defect k before e → ofRulesWith k rules = .error e := by
    rintro before r after e rfl hsound hdefect
    refine ofRulesWith_of_firstDefect (fun q hq => hsize q ?_) hsound hdefect
    simp only [List.mem_append, List.mem_cons, List.not_mem_nil, or_false] at hq ⊢
    exact hq.imp_right .inl
  constructor
  · intro herror
    rcases sound_or_firstDefect k rules with
      hsound | ⟨before, r, after, e', hsplit, hsound, hdefect⟩
    · rw [ofRulesWith_of_sound hsize hsound] at herror
      cases herror
    · rw [hfirst hsplit hsound hdefect] at herror
      obtain rfl := Except.error.inj herror
      exact ⟨before, r, after, hsplit, hsound, hdefect⟩
  · rintro ⟨before, r, after, hsplit, hsound, hdefect⟩
    exact hfirst hsplit hsound hdefect

theorem exists_ofRulesWith_iff (hsize : ∀ r ∈ rules, r.SizeIgnored k) :
    (∃ t, ofRulesWith k rules = .ok t) ↔ SoundRules k rules := by
  constructor
  · rintro ⟨t, ht⟩
    rcases sound_or_firstDefect k rules with
      hsound | ⟨before, r, after, e, hsplit, hsound, hdefect⟩
    · exact hsound
    · rw [(ofRulesWith_eq_error_iff hsize).2 ⟨before, r, after, hsplit, hsound, hdefect⟩] at ht
      cases ht
  · intro hsound
    exact ⟨_, ofRulesWith_of_sound hsize hsound⟩

/-- The table has the rules in their order, each with its markers compiled. -/
structure HoldsCompiled (k : PatternCompiler) (rules : List ConflictRule)
    (t : ConflictTable) : Prop where
  map_rule : t.rules.map (·.rule) = rules
  markersA : ∀ c ∈ t.rules, k.compileList? c.rule.markersA = some c.markersA
  markersB : ∀ c ∈ t.rules, k.compileList? c.rule.markersB = some c.markersB

theorem holdsCompiled_of_ofRulesWith (h : ofRulesWith k rules = .ok t) :
    HoldsCompiled k rules t := by
  obtain ⟨rfl, -, hcompile⟩ := ofRulesWith_eq_ok_iff.1 h
  have hsome : ∀ sources, (k.compileList? sources).isSome = true →
      k.compileList? sources = some ((k.compileList? sources).getD []) := by
    intro sources hsources
    obtain ⟨ps, hps⟩ := Option.isSome_iff_exists.1 hsources
    rw [hps]
    rfl
  refine ⟨?_, List.forall_mem_map.2 fun r hr => ?_, List.forall_mem_map.2 fun r hr => ?_⟩
  · rw [List.map_map]
    exact List.map_id rules
  · exact hsome _ (ConflictRule.compile_iff.1 (hcompile r hr)).1
  · exact hsome _ (ConflictRule.compile_iff.1 (hcompile r hr)).2

/-- Whatever the compiler takes for a pattern, a table is built from sound rules only, and holds
them in their order. Otherwise the error tells the first defect of the first rule that has one,
whatever stands behind it. -/
theorem ofRulesWith_firstDefect (k : PatternCompiler) :
    (∀ rules, (∀ r ∈ rules, r.SizeIgnored k) →
      ((∃ t, ofRulesWith k rules = .ok t) ↔ SoundRules k rules) ∧
      ∀ e, ofRulesWith k rules = .error e ↔ ∃ before r after, rules = before ++ r :: after ∧
        SoundRules k before ∧ r.Defect k before e) ∧
    (∀ rules t, ofRulesWith k rules = .ok t → HoldsCompiled k rules t) ∧
    (∀ before r after e, (∀ q ∈ before ++ [r], q.SizeIgnored k) → SoundRules k before →
      r.Defect k before e → ofRulesWith k (before ++ r :: after) = .error e) :=
  ⟨fun _ hsize => ⟨exists_ofRulesWith_iff hsize, fun _ => ofRulesWith_eq_error_iff hsize⟩,
    fun _ _ => holdsCompiled_of_ofRulesWith, fun _ _ _ _ => ofRulesWith_of_firstDefect⟩

/-- The second rule turns the pair of the first around and has markers that are no patterns,
and the third is about one language alone. -/
def defectiveRules : List ConflictRule :=
  [⟨.go, 1, ["a+"], .rust, 1, []⟩,
    ⟨.rust, 2, ["("], .go, 2, [")"]⟩,
    ⟨.css, 1, [], .css, 1, ["*"]⟩]

/-- What a code point escape and a named group stand for. -/
def respell : String → String
  | "\\x41+" => "A+"
  | "(?P<year>[0-9]+)" => "([0-9]+)"
  | source => source

def respelling : PatternCompiler where
  isValid source := Pattern.isValid (respell source)
  compileList? sources := Pattern.compileList? (sources.map respell)

def respelledRules : List ConflictRule :=
  [⟨.go, 1, ["\\x41+", "b"], .rust, 1, ["(?P<year>[0-9]+)"]⟩]

/-- Of two defects of one rule, and of two invalid patterns, the first is told. What is valid
is for the compiler to say. -/
theorem ofRulesWith_firstDefect_defective :
    ofRules defectiveRules = .error (.duplicateRule .rust .go) ∧
    (∃ t, ofRulesWith respelling respelledRules = .ok t ∧
      HoldsCompiled respelling respelledRules t) ∧
    ∀ after, ofRulesWith respelling
        (respelledRules ++ ⟨.java, 1, ["\\x41+", "[z-a]", "("], .css, 1, ["*"]⟩ :: after) =
      .error (.invalidPattern .conflict .java "[z-a]") := by
  obtain ⟨hall, -, -⟩ := ofRulesWith_firstDefect .standard
  obtain ⟨hrespelling, hholds, hfirst⟩ := ofRulesWith_firstDefect respelling
  have hsize : ∀ r ∈ respelledRules, r.SizeIgnored respelling := by decide +kernel
  have hsound : SoundRules respelling respelledRules :=
    ⟨by decide, List.pairwise_singleton _ _, by decide +kernel⟩
  refine ⟨?_, ?_, fun after => ?_⟩
  · obtain ⟨-, herror⟩ := hall defectiveRules (by decide +kernel)
    refine (herror _).2 ⟨[⟨.go, 1, ["a+"], .rust, 1, []⟩], _, _, rfl, ⟨?_, ?_, ?_⟩,
      .duplicateRule (by decide) ⟨_, List.mem_singleton_self _, Sym2.eq_swap⟩⟩
    · decide
    · exact List.pairwise_singleton _ _
    · decide +kernel
  · obtain ⟨t, ht⟩ := (hrespelling respelledRules hsize).1.2 hsound
    exact ⟨t, ht, hholds _ _ ht⟩
  · refine hfirst respelledRules _ after _ (by decide +kernel) hsound
      (.markersA (by decide) (by decide) ⟨?_, ["\\x41+"], ["("], rfl, ?_⟩)
    · decide +kernel
    · decide +kernel

end ConflictTable

end ChatTriage
