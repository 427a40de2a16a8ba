import ChatTriage.Proofs.Candidates
import Mathlib.Data.List.Destutter
import Mathlib.Data.List.MinMax
import Mathlib.Data.List.Sort
import Mathlib.Tactic.SplitIfs

/-!
# Who leads

Candidates are ranked by weight, and those of one weight by the place of their language
in the catalog. The winner is the one that nobody is ahead of, and the languages that tie
share the top weight. Neither depends on where in the list a candidate stands.
-/

namespace ChatTriage.Candidate

variable {c d e w : Candidate} {cs ds : List Candidate} {l : Language}

theorem isAhead_iff :
    c.isAhead d = true ↔
      d.weight < c.weight ∨ c.weight = d.weight ∧ c.language.index < d.language.index := by
  simp [isAhead]

theorem not_isAhead_iff :
    c.isAhead d = false ↔
      c.weight.toNat < d.weight.toNat ∨
        c.weight.toNat = d.weight.toNat ∧ d.language.index ≤ c.language.index := by
  rw [← Bool.not_eq_true, isAhead_iff, UInt32.lt_iff_toNat_lt, ← UInt32.toNat_inj]
  omega

theorem not_isAhead_self (c : Candidate) : c.isAhead c = false :=
  not_isAhead_iff.2 (.inr ⟨rfl, Nat.le_refl _⟩)

theorem not_isAhead_of_isAhead (h : c.isAhead d = true) : d.isAhead c = false := by
  rw [isAhead_iff, UInt32.lt_iff_toNat_lt, ← UInt32.toNat_inj] at h
  rw [not_isAhead_iff]
  omega

theorem not_isAhead_trans (hcd : c.isAhead d = false) (hde : d.isAhead e = false) :
    c.isAhead e = false := by
  rw [not_isAhead_iff] at *
  omega

theorem eq_of_not_isAhead (hcd : c.isAhead d = false) (hdc : d.isAhead c = false) :
    c = d := by
  rw [not_isAhead_iff] at hcd hdc
  have hweight : c.weight = d.weight := UInt32.toNat_inj.1 (by omega)
  have hlanguage : c.language = d.language := Language.index_injective (by omega)
  cases c
  cases d
  simp_all

theorem not_isAhead_foldl (cs : List Candidate) (c : Candidate) :
    ∀ d ∈ c :: cs,
      d.isAhead (cs.foldl (fun best d => if d.isAhead best then d else best) c) = false := by
  induction cs generalizing c with
  | nil => simpa using not_isAhead_self c
  | cons e cs ih =>
      obtain ⟨hbest, hrest⟩ := List.forall_mem_cons.1 (ih (if e.isAhead c then e else c))
      -- Neither of the first two is ahead of the better one of them.
      have hc : c.isAhead (if e.isAhead c then e else c) = false := by
        split_ifs with h
        · exact not_isAhead_of_isAhead h
        · exact not_isAhead_self c
      have he : e.isAhead (if e.isAhead c then e else c) = false := by
        split_ifs with h
        · exact not_isAhead_self e
        · exact Bool.eq_false_iff.2 h
      rw [List.foldl_cons]
      exact List.forall_mem_cons.2 ⟨not_isAhead_trans hc hbest,
        List.forall_mem_cons.2 ⟨not_isAhead_trans he hbest, hrest⟩⟩

theorem not_isAhead_winner (h : winner cs = some w) : ∀ c ∈ cs, c.isAhead w = false := by
  cases cs with
  | nil => simp
  | cons c cs =>
      rw [winner, Option.some.injEq] at h
      exact h ▸ not_isAhead_foldl cs c

theorem winner_eq_some_iff :
    winner cs = some w ↔ w ∈ cs ∧ ∀ c ∈ cs, c.isAhead w = false := by
  refine ⟨fun h => ⟨winner_mem h, not_isAhead_winner h⟩, ?_⟩
  rintro ⟨hw, hbest⟩
  obtain ⟨v, hv⟩ := exists_winner (List.ne_nil_of_mem hw)
  rw [hv, eq_of_not_isAhead (hbest v (winner_mem hv)) (not_isAhead_winner hv w hw)]

theorem winner_congr (h : ∀ c, c ∈ cs ↔ c ∈ ds) : winner cs = winner ds := by
  ext w
  simp only [winner_eq_some_iff, h]

theorem winner_eq_none_iff : winner cs = none ↔ cs = [] := by
  cases cs with
  | nil => simp [winner]
  | cons c cs => simp [winner]

theorem not_isAhead_iff_of_le (h : c.weight ≤ w.weight) :
    c.isAhead w = false ↔ c.weight = w.weight → w.language.index ≤ c.language.index := by
  rw [not_isAhead_iff, ← UInt32.toNat_inj]
  rw [UInt32.le_iff_toNat_le] at h
  omega

theorem weight_le_winner (h : winner cs = some w) (hc : c ∈ cs) : c.weight ≤ w.weight := by
  have hnot := not_isAhead_winner h c hc
  rw [not_isAhead_iff] at hnot
  rw [UInt32.le_iff_toNat_le]
  omega

theorem winner_eq_some_iff_heaviest :
    winner cs = some w ↔ w ∈ cs ∧ (∀ c ∈ cs, c.weight ≤ w.weight) ∧
      ∀ c ∈ cs, c.weight = w.weight → w.language.index ≤ c.language.index := by
  constructor
  · intro h
    have hle : ∀ c ∈ cs, c.weight ≤ w.weight := fun c => weight_le_winner h
    refine ⟨winner_mem h, hle, fun c hc => ?_⟩
    exact (not_isAhead_iff_of_le (hle c hc)).1 (not_isAhead_winner h c hc)
  · rintro ⟨hw, hle, hfirst⟩
    refine winner_eq_some_iff.2 ⟨hw, fun c hc => ?_⟩
    exact (not_isAhead_iff_of_le (hle c hc)).2 (hfirst c hc)

private theorem max_weight_le_iff {v w x : UInt32} : max v w ≤ x ↔ v ≤ x ∧ w ≤ x := by
  have hmax : max v w = if v ≤ w then w else v := rfl
  rw [hmax]
  grind

theorem foldl_max_le_iff {v x : UInt32} :
    cs.foldl (fun w c => max w c.weight) v ≤ x ↔ v ≤ x ∧ ∀ c ∈ cs, c.weight ≤ x := by
  induction cs generalizing v with
  | nil => simp
  | cons c cs ih =>
      rw [List.foldl_cons, ih, max_weight_le_iff, List.forall_mem_cons, and_assoc]

theorem topWeight_le_iff {x : UInt32} : topWeight cs ≤ x ↔ ∀ c ∈ cs, c.weight ≤ x := by
  rw [topWeight, foldl_max_le_iff, and_iff_right UInt32.zero_le]

theorem weight_le_topWeight (h : c ∈ cs) : c.weight ≤ topWeight cs :=
  topWeight_le_iff.1 (UInt32.le_refl _) c h

theorem topWeight_congr (h : ∀ c, c ∈ cs ↔ c ∈ ds) : topWeight cs = topWeight ds :=
  UInt32.le_antisymm
    (topWeight_le_iff.2 fun c hc => weight_le_topWeight ((h c).1 hc))
    (topWeight_le_iff.2 fun c hc => weight_le_topWeight ((h c).2 hc))

theorem weight_eq_topWeight_iff (hc : c ∈ cs) :
    c.weight = topWeight cs ↔ ∀ d ∈ cs, d.weight ≤ c.weight := by
  constructor
  · intro h d hd
    rw [h]
    exact weight_le_topWeight hd
  · intro h
    exact UInt32.le_antisymm (weight_le_topWeight hc) (topWeight_le_iff.2 h)

theorem tied_congr (h : ∀ c, c ∈ cs ↔ c ∈ ds) : tied cs = tied ds := by
  have htop : ∀ l, (cs.any fun c => c.language == l && c.weight == topWeight cs) =
      ds.any fun c => c.language == l && c.weight == topWeight ds := by
    intro l
    rw [Bool.eq_iff_iff, List.any_eq_true, List.any_eq_true, topWeight_congr h]
    simp only [h]
  simp only [tied, htop]

/-! ## The languages at the top -/

def IsTop (cs : List Candidate) (l : Language) : Prop :=
  ∃ c ∈ cs, c.language = l ∧ ∀ d ∈ cs, d.weight ≤ c.weight

instance (cs : List Candidate) : DecidablePred (IsTop cs) :=
  fun l => inferInstanceAs (Decidable (∃ c ∈ cs, c.language = l ∧ ∀ d ∈ cs, d.weight ≤ c.weight))

/-- The languages at the top in catalog order, be it one or several. -/
def topLanguages (cs : List Candidate) : List Language :=
  Language.all.filter (IsTop cs ·)

theorem isTop_iff_topWeight :
    IsTop cs l ↔ ∃ c ∈ cs, c.language = l ∧ c.weight = topWeight cs := by
  apply exists_congr
  intro c
  apply and_congr_right
  intro hc
  rw [weight_eq_topWeight_iff hc]

theorem mem_topLanguages : l ∈ topLanguages cs ↔ IsTop cs l := by
  have hall := Language.mem_all l
  simp [topLanguages, hall]

theorem topLanguages_ascending (cs : List Candidate) :
    (topLanguages cs).Pairwise fun l m => l.index < m.index := by
  have hall : Language.all.Pairwise fun l m => l.index < m.index := by decide
  exact hall.filter _

theorem tied_eq (cs : List Candidate) :
    tied cs = if (topLanguages cs).length < 2 then [] else topLanguages cs := by
  have htop : topLanguages cs = Language.all.filter fun l =>
      cs.any fun c => c.language == l && c.weight == topWeight cs := by
    apply List.filter_congr
    intro l _
    rw [Bool.eq_iff_iff, decide_eq_true_eq, isTop_iff_topWeight]
    simp
  rw [htop]
  rfl

theorem topLanguages_nodup (cs : List Candidate) : (topLanguages cs).Nodup := by
  apply (topLanguages_ascending cs).imp
  rintro l m hlt rfl
  exact Nat.lt_irrefl _ hlt

theorem tied_ascending (cs : List Candidate) :
    (tied cs).Pairwise fun l m => l.index < m.index := by
  rw [tied_eq]
  split_ifs
  · exact List.Pairwise.nil
  · exact topLanguages_ascending cs

theorem mem_tied_iff : l ∈ tied cs ↔ IsTop cs l ∧ ∃ m, m ≠ l ∧ IsTop cs m := by
  rw [tied_eq]
  simp only [← mem_topLanguages]
  split_ifs with hfew
  · -- One language at most is at the top.
    have hsame : ∀ l ∈ topLanguages cs, ∀ m ∈ topLanguages cs, m = l := by
      match topLanguages cs, hfew with
      | [], _ | [_], _ => simp
    simp only [List.not_mem_nil, false_iff]
    rintro ⟨hl, m, hne, hm⟩
    exact hne (hsame l hl m hm)
  · refine ⟨fun hl => ⟨hl, ?_⟩, And.left⟩
    have hnot : topLanguages cs ≠ [l] := by
      intro h
      simp [h] at hfew
    rcases ((topLanguages_nodup cs).ne_singleton_iff l).1 hnot with hnil | ⟨m, hm, hne⟩
    · simp [hnil] at hl
    · exact ⟨m, hne, hm⟩

theorem isTop_winner (h : winner cs = some w) : IsTop cs w.language :=
  ⟨w, winner_mem h, rfl, fun _ => weight_le_winner h⟩

theorem index_winner_le (h : winner cs = some w) (hl : IsTop cs l) :
    w.language.index ≤ l.index := by
  obtain ⟨c, hc, rfl, htop⟩ := hl
  obtain ⟨hw, hle, hfirst⟩ := winner_eq_some_iff_heaviest.1 h
  exact hfirst c hc (UInt32.le_antisymm (hle c hc) (htop w hw))

theorem head_tied (h : l ∈ (tied cs).head?) : ∃ w, winner cs = some w ∧ w.language = l := by
  obtain ⟨ls, htied⟩ := List.head?_eq_some_iff.1 (Option.mem_def.1 h)
  have hmem : l ∈ tied cs := htied ▸ List.mem_cons_self
  obtain ⟨hl, m, hne, hm⟩ := mem_tied_iff.1 hmem
  have hsome : cs ≠ [] := by
    obtain ⟨c, hc, -⟩ := hl
    exact List.ne_nil_of_mem hc
  obtain ⟨w, hw⟩ := exists_winner hsome
  have htie : w.language ∈ tied cs := by
    apply mem_tied_iff.2
    refine ⟨isTop_winner hw, ?_⟩
    by_cases hwl : l = w.language
    · exact ⟨m, hwl ▸ hne, hm⟩
    · exact ⟨l, hwl, hl⟩
  have hle : l.index ≤ w.language.index := by
    have hascending := tied_ascending cs
    rw [htied] at hascending htie
    rcases List.mem_cons.1 htie with heq | hlater
    · exact Nat.le_of_eq (congrArg Language.index heq.symm)
    · exact Nat.le_of_lt (List.rel_of_pairwise_cons hascending hlater)
  exact ⟨w, hw, Language.index_injective (Nat.le_antisymm (index_winner_le hw hl) hle)⟩

def heaviest (cs : List Candidate) : List Candidate :=
  cs.filter fun c => c.weight == topWeight cs

def firstHeaviest (cs : List Candidate) : Option Candidate :=
  (heaviest cs).argmin fun c => c.language.index

def inCatalogOrder (ls : List Language) : List Language :=
  ls.mergeSort fun l m => l.index ≤ m.index

/-- The languages of the heaviest candidates are sorted, each that equals the one before it
is dropped, and more than one that is left is a tie. -/
def sortedTies (cs : List Candidate) : List Language :=
  let distinct := (inCatalogOrder (languages (heaviest cs))).destutter (· ≠ ·)
  if distinct.length < 2 then [] else distinct

theorem mem_heaviest : c ∈ heaviest cs ↔ c ∈ cs ∧ ∀ d ∈ cs, d.weight ≤ c.weight := by
  rw [heaviest, List.mem_filter, beq_iff_eq]
  exact and_congr_right weight_eq_topWeight_iff

theorem mem_languages_heaviest : l ∈ languages (heaviest cs) ↔ IsTop cs l := by
  rw [mem_languages]
  apply exists_congr
  intro c
  rw [mem_heaviest]
  tauto

theorem winner_eq_firstHeaviest (cs : List Candidate) : winner cs = firstHeaviest cs := by
  cases hfirst : firstHeaviest cs with
  | none =>
      rw [winner_eq_none_iff]
      by_contra hsome
      obtain ⟨w, hw⟩ := exists_winner hsome
      have hmem : w ∈ heaviest cs :=
        mem_heaviest.2 ⟨winner_mem hw, fun _ => weight_le_winner hw⟩
      rw [List.argmin_eq_none.1 hfirst] at hmem
      exact List.not_mem_nil hmem
  | some v =>
      obtain ⟨hv, hle⟩ := mem_heaviest.1 (List.argmin_mem hfirst)
      refine winner_eq_some_iff_heaviest.2 ⟨hv, hle, fun c hc hweight => ?_⟩
      have hheavy : c ∈ heaviest cs := mem_heaviest.2 ⟨hc, hweight ▸ hle⟩
      exact List.le_of_mem_argmin (f := fun c => c.language.index) hheavy hfirst

theorem inCatalogOrder_ascending (ls : List Language) :
    (inCatalogOrder ls).Pairwise fun l m => l.index ≤ m.index := by
  have htrans : ∀ k l m : Language, decide (k.index ≤ l.index) = true →
      decide (l.index ≤ m.index) = true → decide (k.index ≤ m.index) = true := by
    simp only [decide_eq_true_eq]
    exact fun _ _ _ => Nat.le_trans
  have htotal : ∀ l m : Language,
      (decide (l.index ≤ m.index) || decide (m.index ≤ l.index)) = true := by
    simp only [Bool.or_eq_true, decide_eq_true_eq]
    exact fun l m => Nat.le_total _ _
  simpa only [inCatalogOrder, decide_eq_true_eq] using
    List.pairwise_mergeSort htrans htotal ls

/-- Sorting brings equal languages together, so that each is left once. -/
theorem destutter_inCatalogOrder (cs : List Candidate) :
    (inCatalogOrder (languages (heaviest cs))).destutter (· ≠ ·) = topLanguages cs := by
  have hantisymm : Std.Antisymm fun l m : Language => l.index ≤ m.index :=
    ⟨fun _ _ hlm hml => Language.index_injective (Nat.le_antisymm hlm hml)⟩
  have hsorted := inCatalogOrder_ascending (languages (heaviest cs))
  have hperm : (inCatalogOrder (languages (heaviest cs))).dedup.Perm (topLanguages cs) := by
    rw [List.perm_ext_iff_of_nodup (List.nodup_dedup _) (topLanguages_nodup cs)]
    intro l
    rw [List.mem_dedup, inCatalogOrder, List.mem_mergeSort, mem_languages_heaviest,
      mem_topLanguages]
  rw [hsorted.destutter_eq_dedup]
  exact hperm.eq_of_pairwise' (hsorted.sublist (List.dedup_sublist _))
    ((topLanguages_ascending cs).imp Nat.le_of_lt)

theorem tied_eq_sortedTies (cs : List Candidate) : tied cs = sortedTies cs := by
  rw [tied_eq, sortedTies, destutter_inCatalogOrder]

/-! ## One decision -/

structure LeadAgreement (cs : List Candidate) : Prop where
  winner_none_iff : winner cs = none ↔ cs = []
  /-- The winner is among the heaviest candidates, and in the catalog no other of them
  stands before it. -/
  winner_some_iff : ∀ w, winner cs = some w ↔
    w ∈ cs ∧ (∀ c ∈ cs, c.weight ≤ w.weight) ∧
      ∀ c ∈ cs, c.weight = w.weight → w.language.index ≤ c.language.index
  tied_ascending : (tied cs).Pairwise fun l m => l.index < m.index
  tied_length : tied cs = [] ∨ 2 ≤ (tied cs).length
  mem_tied_iff : ∀ l, l ∈ tied cs ↔ IsTop cs l ∧ ∃ m, m ≠ l ∧ IsTop cs m
  /-- Whoever wins comes first among those that tie. -/
  tied_head : ∀ l ∈ (tied cs).head?, ∃ w, winner cs = some w ∧ w.language = l
  /-- Both are also found from the heaviest candidates, the winner by its place in the
  catalog, the tie by sorting. -/
  by_steps : winner cs = firstHeaviest cs ∧ tied cs = sortedTies cs
  /-- Neither order nor repetitions count. -/
  same_of_mem_iff : ∀ ds, (∀ c, c ∈ ds ↔ c ∈ cs) → winner ds = winner cs ∧ tied ds = tied cs

/-- Whatever is left of a resolution, the winner and the languages that tie tell of one
decision. -/
theorem lead_agrees (cs : List Candidate) : LeadAgreement cs where
  winner_none_iff := winner_eq_none_iff
  winner_some_iff w := winner_eq_some_iff_heaviest
  tied_ascending := tied_ascending cs
  tied_length := by
    rw [tied_eq]
    split_ifs with hfew
    · exact .inl rfl
    · exact .inr (Nat.not_lt.1 hfew)
  mem_tied_iff l := mem_tied_iff
  tied_head l := head_tied
  by_steps := ⟨winner_eq_firstHeaviest cs, tied_eq_sortedTies cs⟩
  same_of_mem_iff ds h := ⟨winner_congr h, tied_congr h⟩

end ChatTriage.Candidate
