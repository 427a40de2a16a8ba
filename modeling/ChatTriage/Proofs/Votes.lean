import ChatTriage.Proofs.ByLanguage

/-!
# What votes cannot steer

Which rules fire and who loses depends on the order of the languages and on which side of
each rule is ahead in markers. Neither the votes of a candidate nor the distance between
two marker counts enters. Votes are only carried along: whoever no rule has named keeps
its place and its entry, and of a language that some rule has named the first entry stays.
-/

namespace ChatTriage

open Candidate

namespace RuleOutcome

def lead (o : RuleOutcome) : Ordering :=
  compare o.markersA o.markersB

def decision (o : RuleOutcome) : Language × Language × Verdict × List Language :=
  (o.a, o.b, o.verdict, o.kept)

def namedBy (os : List RuleOutcome) (l : Language) : Bool :=
  os.any fun o => o.a == l || o.b == l

theorem namedBy_cons (o : RuleOutcome) (os : List RuleOutcome) (l : Language) :
    namedBy (o :: os) l = (o.a == l || o.b == l || namedBy os l) :=
  List.any_cons

/-- The languages that the last outcome to name them has kept, in the order of these
outcomes. -/
def lastKept : List RuleOutcome → List Language
  | [] => []
  | o :: os => o.kept.filter (fun l => !namedBy os l) ++ lastKept os

theorem exists_kept_of_mem_lastKept {os : List RuleOutcome} {l : Language}
    (h : l ∈ lastKept os) : ∃ o ∈ os, l ∈ o.kept := by
  induction os with
  | nil => simp [lastKept] at h
  | cons o os ih =>
      rcases List.mem_append.1 h with h | h
      · exact ⟨o, List.mem_cons_self, (List.mem_filter.1 h).1⟩
      · obtain ⟨p, hp, hl⟩ := ih h
        exact ⟨p, List.mem_cons_of_mem o hp, hl⟩

end RuleOutcome

open RuleOutcome

/-- The candidates that no rule has named stand as they stood in the list, and behind them
first entries of languages that some rule has named. -/
def Resolution.KeepsEntries (res : Resolution) (cs : List Candidate) : Prop :=
  ∃ moved, res.remaining =
      Candidate.within (fun l => !namedBy res.applied l) cs ++ moved ∧
    ∀ c ∈ moved, namedBy res.applied c.language = true ∧ find? cs c.language = some c

namespace CompiledRule

variable {r : CompiledRule} {text text' : List Char} {kept : List Language}
  {cs ds : List Candidate}

theorem decision_settle (h : (r.settle text).lead = (r.settle text').lead) :
    (r.settle text).decision = (r.settle text').decision := by
  have hlt : (r.settle text).markersA < (r.settle text).markersB ↔
      (r.settle text').markersA < (r.settle text').markersB := by
    rw [← Nat.compare_eq_lt, ← Nat.compare_eq_lt]
    change (r.settle text).lead = .lt ↔ (r.settle text').lead = .lt
    rw [h]
  have hgt : (r.settle text).markersB < (r.settle text).markersA ↔
      (r.settle text').markersB < (r.settle text').markersA := by
    rw [← Nat.compare_eq_gt, ← Nat.compare_eq_gt]
    change (r.settle text).lead = .gt ↔ (r.settle text').lead = .gt
    rw [h]
  unfold settle at hlt hgt
  unfold decision settle
  simp only [gt_iff_lt, hlt, hgt]

theorem fires_of_languages_eq (r : CompiledRule) (h : languages cs = languages ds) :
    r.fires cs = r.fires ds := by
  rw [Bool.eq_iff_iff, fires_iff, fires_iff, h]

theorem languages_survivors_eq (r : CompiledRule) (kept : List Language)
    (h : languages cs = languages ds) :
    languages (r.survivors kept cs) = languages (r.survivors kept ds) := by
  rw [languages_survivors, languages_survivors, h]

/-- The survivors that later rules do not name are those that no rule has named, and then
some of those that this rule has kept. -/
theorem within_survivors_append (r : CompiledRule) (text : List Char) (kept : List Language)
    (os : List RuleOutcome) (cs : List Candidate) :
    within (fun l => !namedBy os l) (r.survivors kept cs) =
      within (fun l => !namedBy (r.settle text :: os) l) cs ++
        within (fun l => !namedBy os l) (kept.filterMap (find? cs)) := by
  unfold survivors within
  rw [List.filter_append, List.filter_filter]
  congr 1
  apply List.filter_congr
  intro c _
  dsimp only
  rw [namedBy_cons, settle_a, settle_b, Bool.not_or, Bool.not_or, Bool.and_comm,
    BEq.comm (a := r.rule.a), BEq.comm (a := r.rule.b)]
  rfl

end CompiledRule

/-! ## A row of rules -/

namespace ConflictTable

variable {text text' : List Char} {rules : List CompiledRule} {cs ds : List Candidate}

theorem resolveWith_same_decisions
    (hlead : ∀ r ∈ rules, (r.settle text).lead = (r.settle text').lead)
    (hlanguages : languages cs = languages ds) :
    (resolveWith text rules cs).applied.map decision =
        (resolveWith text' rules ds).applied.map decision ∧
      languages (resolveWith text rules cs).remaining =
        languages (resolveWith text' rules ds).remaining := by
  induction rules generalizing cs ds with
  | nil => exact ⟨rfl, hlanguages⟩
  | cons r rules ih =>
      obtain ⟨hr, hrules⟩ := List.forall_mem_cons.1 hlead
      have hfires := r.fires_of_languages_eq hlanguages
      by_cases hf : r.fires cs = true
      · have hdecision := CompiledRule.decision_settle hr
        have hkept : (r.settle text).kept = (r.settle text').kept :=
          congrArg (fun d => d.2.2.2) hdecision
        have hsurvivors := r.languages_survivors_eq (r.settle text).kept hlanguages
        rw [resolveWith_fires hf, resolveWith_fires (hfires ▸ hf), ← hkept]
        obtain ⟨happlied, hremaining⟩ := ih hrules hsurvivors
        refine ⟨?_, hremaining⟩
        rw [List.map_cons, List.map_cons, hdecision, happlied]
      · rw [resolveWith_skips hf, resolveWith_skips (hfires ▸ hf)]
        exact ih hrules hlanguages

theorem namedBy_applied_of_mem_lastKept {l : Language}
    (h : l ∈ lastKept (resolveWith text rules cs).applied) :
    namedBy (resolveWith text rules cs).applied l = true ∧ l ∈ languages cs := by
  obtain ⟨o, ho, hl⟩ := exists_kept_of_mem_lastKept h
  obtain ⟨ha, hb⟩ := applied_languages ho
  rcases kept_of_applied ho hl with rfl | rfl
  · exact ⟨List.any_eq_true.2 ⟨o, ho, by simp⟩, ha⟩
  · exact ⟨List.any_eq_true.2 ⟨o, ho, by simp⟩, hb⟩

/-- What a row of rules leaves: whom it has not named, then whom it has named and kept. -/
theorem remaining_resolveWith (text : List Char) (rules : List CompiledRule)
    (cs : List Candidate) :
    (resolveWith text rules cs).remaining =
      Candidate.within (fun l => !namedBy (resolveWith text rules cs).applied l) cs ++
        (lastKept (resolveWith text rules cs).applied).filterMap (find? cs) := by
  induction rules generalizing cs with
  | nil => simp [within, namedBy, lastKept]
  | cons r rules ih =>
      by_cases hf : r.fires cs = true
      · have hrest := ih (r.survivors (r.settle text).kept cs)
        rw [r.within_survivors_append text, within_filterMap_find?, List.append_assoc] at hrest
        -- Whom a later rule keeps is a survivor with the entry that it had before.
        have hsame : ∀ l ∈ lastKept
            (resolveWith text rules (r.survivors (r.settle text).kept cs)).applied,
            find? (r.survivors (r.settle text).kept cs) l = find? cs l := by
          intro l hl
          obtain ⟨c, hc⟩ := Option.isSome_iff_exists.1
            (isSome_find?.2 (namedBy_applied_of_mem_lastKept hl).2)
          rw [hc, CompiledRule.find?_eq_of_find?_survivors (r.kept_subset text) hc]
        rw [resolveWith_fires hf]
        dsimp only
        rw [hrest, lastKept, List.filterMap_append, List.filterMap_congr hsame]
      · rw [resolveWith_skips hf]
        exact ih cs

theorem resolveWith_keepsEntries (text : List Char) (rules : List CompiledRule)
    (cs : List Candidate) : (resolveWith text rules cs).KeepsEntries cs := by
  refine ⟨_, remaining_resolveWith text rules cs, fun c hc => ?_⟩
  obtain ⟨l, hl, hfind⟩ := List.mem_filterMap.1 hc
  obtain ⟨-, rfl⟩ := find?_eq_some hfind
  exact ⟨(namedBy_applied_of_mem_lastKept hl).1, hfind⟩

/-- Neither votes nor the distances between marker counts steer a resolution: where the
candidates stand for the same languages and the same sides are ahead, the same decisions
are taken and the same languages are left, each run with entries of its own. -/
theorem resolve_not_steered (t : ConflictTable) {cs ds : List Candidate}
    {text text' : List Char} (hlanguages : languages cs = languages ds)
    (hlead : ∀ r ∈ t.rules, (r.settle text).lead = (r.settle text').lead) :
    (t.resolve cs text).applied.map decision = (t.resolve ds text').applied.map decision ∧
      languages (t.resolve cs text).remaining = languages (t.resolve ds text').remaining ∧
      (t.resolve cs text).KeepsEntries cs ∧ (t.resolve ds text').KeepsEntries ds := by
  obtain ⟨happlied, hremaining⟩ := resolveWith_same_decisions hlead hlanguages
  exact ⟨happlied, hremaining, resolveWith_keepsEntries text t.rules cs,
    resolveWith_keepsEntries text' t.rules ds⟩

def twoMarkers : ConflictTable :=
  ⟨[⟨.javaScript, 5, ["=>", "let "], .typeScript, 6, [": string"]⟩,
    ⟨.javaScript, 6, ["var "], .java, 6, ["throws"]⟩].map ConflictRule.read⟩

/-- One text shows one marker of JavaScript and the other one two, the votes go the one
way and the other, and Java stands twice in the list. -/
theorem resolve_not_steered_twoMarkers :
    (twoMarkers.resolve [⟨.java, 1⟩, ⟨.typeScript, 9⟩, ⟨.java, 8⟩, ⟨.javaScript, 1⟩]
        "x => y".toList).applied.map decision =
      (twoMarkers.resolve [⟨.java, 7⟩, ⟨.typeScript, 1⟩, ⟨.java, 2⟩, ⟨.javaScript, 9⟩]
        "let f = x => y".toList).applied.map decision ∧
    (twoMarkers.resolve [⟨.java, 1⟩, ⟨.typeScript, 9⟩, ⟨.java, 8⟩, ⟨.javaScript, 1⟩]
        "x => y".toList).KeepsEntries
      [⟨.java, 1⟩, ⟨.typeScript, 9⟩, ⟨.java, 8⟩, ⟨.javaScript, 1⟩] := by
  have hlead : ∀ r ∈ twoMarkers.rules, (r.settle "x => y".toList).lead =
      (r.settle "let f = x => y".toList).lead := by
    decide +kernel
  have hlanguages :
      languages [⟨.java, 1⟩, ⟨.typeScript, 9⟩, ⟨.java, 8⟩, ⟨.javaScript, 1⟩] =
        languages [⟨.java, 7⟩, ⟨.typeScript, 1⟩, ⟨.java, 2⟩, ⟨.javaScript, 9⟩] := rfl
  obtain ⟨happlied, -, hkeeps, -⟩ := resolve_not_steered twoMarkers hlanguages hlead
  exact ⟨happlied, hkeeps⟩

end ConflictTable

end ChatTriage
