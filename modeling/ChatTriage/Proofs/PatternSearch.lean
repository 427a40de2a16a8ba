import ChatTriage.Pattern.Search

/-!
# The search finds what matches

The lists that the search carries are ascending and stay inside the text. On such lists
`Pattern.ends` lists exactly the ends of matches, so `Pattern.occursIn` holds exactly
when the pattern matches some part of the text.
-/

namespace ChatTriage

/-- An ascending list of positions up to `last`. -/
def IsPositions (last : Nat) (ps : List Nat) : Prop :=
  ps.Pairwise (· < ·) ∧ ∀ i ∈ ps, i ≤ last

theorem isPositions_nil (last : Nat) : IsPositions last [] :=
  ⟨List.Pairwise.nil, by simp⟩

theorem isPositions_cons {last i : Nat} {ps : List Nat} :
    IsPositions last (i :: ps) ↔ i ≤ last ∧ (∀ j ∈ ps, i < j) ∧ IsPositions last ps := by
  simp only [IsPositions, List.pairwise_cons, List.forall_mem_cons]
  constructor
  · rintro ⟨⟨h1, h2⟩, h3, h4⟩
    exact ⟨h3, h1, h2, h4⟩
  · rintro ⟨h3, h1, h2, h4⟩
    exact ⟨⟨h1, h2⟩, h3, h4⟩

theorem isPositions_range (last : Nat) : IsPositions last (List.range (last + 1)) :=
  ⟨List.pairwise_lt_range, fun i hi => by
    have := List.mem_range.1 hi
    omega⟩

theorem IsPositions.filter {last : Nat} {ps : List Nat} (h : IsPositions last ps)
    (keep : Nat → Bool) : IsPositions last (ps.filter keep) :=
  ⟨h.1.filter keep, fun i hi => h.2 i (List.mem_filter.1 hi).1⟩

namespace Positions

theorem mem_mergeHead {x z : Nat} {xs ys : List Nat} {rest : List Nat → List Nat}
    (hrest : ∀ ys, z ∈ rest ys ↔ z ∈ xs ∨ z ∈ ys) :
    z ∈ mergeHead x rest ys ↔ z ∈ x :: xs ∨ z ∈ ys := by
  induction ys with
  | nil => simp [mergeHead, hrest]
  | cons y ys ih =>
    unfold mergeHead
    split
    · simp [hrest, or_assoc]
    · split
      · next hxy =>
        subst hxy
        simp only [List.mem_cons, hrest]
        grind
      · simp only [List.mem_cons, ih]
        grind

theorem mem_union {z : Nat} {xs ys : List Nat} : z ∈ union xs ys ↔ z ∈ xs ∨ z ∈ ys := by
  induction xs generalizing ys with
  | nil => simp [union]
  | cons x xs ih => exact mem_mergeHead fun ys => ih

theorem IsPositions.mergeHead {last x : Nat} {xs ys : List Nat}
    (hx : IsPositions last (x :: xs)) (hy : IsPositions last ys)
    (hrest : ∀ ys, IsPositions last ys → IsPositions last (union xs ys)) :
    IsPositions last (mergeHead x (union xs) ys) := by
  have hcons := isPositions_cons.1 hx
  induction ys with
  | nil =>
    refine isPositions_cons.2 ⟨hcons.1, fun j hj => ?_, hrest _ (isPositions_nil last)⟩
    exact hcons.2.1 j (by simpa [mem_union] using hj)
  | cons y ys ih =>
    have hyc := isPositions_cons.1 hy
    unfold Positions.mergeHead
    split
    · next hlt =>
      refine isPositions_cons.2 ⟨hcons.1, fun j hj => ?_, hrest _ hy⟩
      rcases mem_union.1 hj with hj | hj
      · exact hcons.2.1 j hj
      · rcases List.mem_cons.1 hj with rfl | hj
        · exact hlt
        · exact Nat.lt_trans hlt (hyc.2.1 j hj)
    · next hnlt =>
      split
      · next heq =>
        refine isPositions_cons.2 ⟨hcons.1, fun j hj => ?_, hrest _ hyc.2.2⟩
        rcases mem_union.1 hj with hj | hj
        · exact hcons.2.1 j hj
        · exact heq ▸ hyc.2.1 j hj
      · next hne =>
        refine isPositions_cons.2 ⟨hyc.1, fun j hj => ?_, ih hyc.2.2⟩
        rcases (mem_mergeHead fun ys => mem_union).1 hj with hj | hj
        · rcases List.mem_cons.1 hj with rfl | hj
          · omega
          · exact Nat.lt_of_le_of_lt (by omega) (hcons.2.1 j hj)
        · exact hyc.2.1 j hj

theorem IsPositions.union {last : Nat} {xs ys : List Nat} (hx : IsPositions last xs)
    (hy : IsPositions last ys) : IsPositions last (union xs ys) := by
  induction xs generalizing ys with
  | nil => exact hy
  | cons x xs ih =>
    exact IsPositions.mergeHead hx hy fun ys h => ih (isPositions_cons.1 hx).2.2 h

def SweepsTo (canStep : Nat → Bool) (i j : Nat) : Prop :=
  i ≤ j ∧ ∀ k, i ≤ k → k < j → canStep k = true

theorem sweepsTo_iff {canStep : Nat → Bool} {i j : Nat} :
    SweepsTo canStep i j ↔ j = i ∨ canStep i = true ∧ SweepsTo canStep (i + 1) j := by
  constructor
  · rintro ⟨hij, hstep⟩
    rcases Nat.eq_or_lt_of_le hij with rfl | hlt
    · exact .inl rfl
    · exact .inr ⟨hstep i (Nat.le_refl i) hlt, hlt, fun k hk => hstep k (by omega)⟩
  · rintro (rfl | ⟨hi, hij, hstep⟩)
    · exact ⟨Nat.le_refl _, fun k h1 h2 => by omega⟩
    · refine ⟨by omega, fun k h1 h2 => ?_⟩
      rcases Nat.eq_or_lt_of_le h1 with rfl | hlt
      · exact hi
      · exact hstep k hlt h2

private theorem sweep_rest {canStep : Nat → Bool} {last i : Nat} {ps : List Nat}
    (hstep : ∀ k, canStep k = true → k < last) (h : IsPositions last (i :: ps)) :
    let qs := if canStep i && ps.head? != some (i + 1) then (i + 1) :: ps else ps
    IsPositions last qs ∧ (∀ j ∈ qs, i < j) ∧
      ∀ j, j ∈ qs ↔ j ∈ ps ∨ canStep i = true ∧ j = i + 1 := by
  have hc := isPositions_cons.1 h
  intro qs
  by_cases hi : canStep i = true
  · by_cases hh : ps.head? = some (i + 1)
    · have hqs : qs = ps := by simp [qs, hh]
      rw [hqs]
      refine ⟨hc.2.2, hc.2.1, fun j => ⟨.inl, ?_⟩⟩
      rintro (hj | ⟨-, rfl⟩)
      · exact hj
      · exact List.mem_of_head? hh
    · have hqs : qs = (i + 1) :: ps := by simp [qs, hi, hh]
      have hlt : ∀ j ∈ ps, i + 1 < j := by
        intro j hj
        cases ps with
        | nil => simp at hj
        | cons q ps =>
          have hq : i < q := hc.2.1 q (by simp)
          have hne : q ≠ i + 1 := by simpa using hh
          rcases List.mem_cons.1 hj with rfl | hj
          · omega
          · have := (isPositions_cons.1 hc.2.2).2.1 j hj
            omega
      rw [hqs]
      refine ⟨isPositions_cons.2 ⟨hstep i hi, hlt, hc.2.2⟩, ?_, fun j => ?_⟩
      · intro j hj
        rcases List.mem_cons.1 hj with rfl | hj
        · omega
        · exact hc.2.1 j hj
      · simp [hi, or_comm]
  · have hqs : qs = ps := by simp [qs, hi]
    rw [hqs]
    exact ⟨hc.2.2, hc.2.1, fun j => by simp [hi]⟩

theorem sweep_spec {canStep : Nat → Bool} {last : Nat}
    (hstep : ∀ k, canStep k = true → k < last) (fuel : Nat) (ps : List Nat)
    (h : IsPositions last ps) (hfuel : ∀ i ∈ ps, last < fuel + i) :
    IsPositions last (sweep canStep fuel ps) ∧
      ∀ j, j ∈ sweep canStep fuel ps ↔ ∃ i ∈ ps, SweepsTo canStep i j := by
  induction fuel generalizing ps with
  | zero =>
    cases ps with
    | nil => exact ⟨isPositions_nil last, by simp [sweep]⟩
    | cons i ps =>
      have h1 := hfuel i (by simp)
      have h2 := h.2 i (by simp)
      omega
  | succ fuel ih =>
    cases ps with
    | nil => exact ⟨isPositions_nil last, by simp [sweep]⟩
    | cons i ps =>
      obtain ⟨hqs, hgt, hmem⟩ := sweep_rest hstep h
      have hi := isPositions_cons.1 h
      have hihead := hfuel i (by simp)
      obtain ⟨ihpos, ihmem⟩ := ih _ hqs fun j hj => by
        have := hgt j hj
        omega
      rw [sweep]
      constructor
      · refine isPositions_cons.2 ⟨hi.1, fun j hj => ?_, ihpos⟩
        obtain ⟨k, hk, hkj⟩ := (ihmem j).1 hj
        exact Nat.lt_of_lt_of_le (hgt k hk) hkj.1
      · intro j
        rw [List.mem_cons, ihmem]
        constructor
        · rintro (rfl | ⟨k, hk, hkj⟩)
          · exact ⟨j, by simp, sweepsTo_iff.2 (.inl rfl)⟩
          · rcases (hmem k).1 hk with hk | ⟨hstepi, rfl⟩
            · exact ⟨k, by simp [hk], hkj⟩
            · exact ⟨i, by simp, sweepsTo_iff.2 (.inr ⟨hstepi, hkj⟩)⟩
        · rintro ⟨k, hk, hkj⟩
          rcases List.mem_cons.1 hk with rfl | hk
          · rcases sweepsTo_iff.1 hkj with rfl | ⟨hstepk, hkj⟩
            · exact .inl rfl
            · exact .inr ⟨_, (hmem _).2 (.inr ⟨hstepk, rfl⟩), hkj⟩
          · exact .inr ⟨k, (hmem k).2 (.inl hk), hkj⟩

/-! ## Repeated steps -/

inductive Reaches (rel : Nat → Nat → Prop) : Nat → Nat → Prop
  | refl (i : Nat) : Reaches rel i i
  | head {i j k : Nat} (h : rel i j) (hr : Reaches rel j k) : Reaches rel i k

theorem Reaches.tail {rel : Nat → Nat → Prop} {i j k : Nat} (h : Reaches rel i j)
    (hjk : rel j k) : Reaches rel i k := by
  induction h with
  | refl i => exact .head hjk (.refl k)
  | head hij _ ih => exact .head hij (ih hjk)

/-- `step` takes every position of a list to all those that `rel` relates it to. -/
def StepsBy (last : Nat) (rel : Nat → Nat → Prop) (step : List Nat → List Nat) : Prop :=
  ∀ ps, IsPositions last ps →
    IsPositions last (step ps) ∧ ∀ j, j ∈ step ps ↔ ∃ i ∈ ps, rel i j

theorem StepsBy.le {last : Nat} {rel : Nat → Nat → Prop} {step : List Nat → List Nat}
    (h : StepsBy last rel step) {i j : Nat} (hi : i ≤ last) (hij : rel i j) : j ≤ last := by
  have hs := h [i] (isPositions_cons.2 ⟨hi, by simp, isPositions_nil last⟩)
  exact hs.1.2 j ((hs.2 j).2 ⟨i, by simp, hij⟩)

@[simp] theorem size_mark (seen : Array Bool) (ps : List Nat) :
    (mark seen ps).size = seen.size := by
  induction ps generalizing seen with
  | nil => rfl
  | cons i ps ih =>
    rw [mark, List.foldl_cons]
    exact (ih _).trans (by simp)

theorem getD_mark (seen : Array Bool) (ps : List Nat) (j : Nat) (hj : j < seen.size) :
    (mark seen ps).getD j false = (seen.getD j false || ps.contains j) := by
  induction ps generalizing seen with
  | nil => simp [mark]
  | cons i ps ih =>
    have h := ih (seen.setIfInBounds i true) (by simpa using hj)
    rw [mark, List.foldl_cons]
    refine h.trans ?_
    by_cases hij : i = j
    · subst hij
      simp [Array.getD, hj]
    · have hji : ¬j = i := fun h => hij h.symm
      simp [Array.getD, hj, hij, hji]

def unseen (last : Nat) (seen : Array Bool) : Nat :=
  (List.range (last + 1)).countP fun i => !seen.getD i false

private theorem countP_lt_of_mem {p q : Nat → Bool} {l : List Nat}
    (hle : ∀ i, q i = true → p i = true) {i : Nat} (hi : i ∈ l) (hp : p i = true)
    (hq : q i = false) : l.countP q < l.countP p := by
  induction l with
  | nil => simp at hi
  | cons x xs ih =>
    have hmono : xs.countP q ≤ xs.countP p := List.countP_mono_left fun j _ => hle j
    rw [List.countP_cons, List.countP_cons]
    rcases List.mem_cons.1 hi with rfl | hi
    · simp [hp, hq]
      omega
    · have := ih hi
      by_cases hqx : q x = true
      · simp [hqx, hle x hqx]
        omega
      · simp [hqx]
        omega

theorem unseen_mark_lt {last : Nat} {seen : Array Bool} {ps : List Nat} {i : Nat}
    (hsize : seen.size = last + 1) (hi : i ∈ ps) (hlast : i ≤ last)
    (hseen : seen.getD i false = false) : unseen last (mark seen ps) < unseen last seen := by
  refine countP_lt_of_mem (i := i) (fun j hj => ?_) (List.mem_range.2 (by omega))
    (by simp [hseen]) ?_
  · by_cases hjs : j < seen.size
    · rw [getD_mark seen ps j hjs] at hj
      revert hj
      cases seen.getD j false <;> simp
    · simp [Array.getD, hjs]
  · rw [getD_mark seen ps i (by omega)]
    simp [hi]

theorem spread_spec {last : Nat} {rel : Nat → Nat → Prop} {step : List Nat → List Nat}
    (hstep : StepsBy last rel step) (fuel : Nat) (seen : Array Bool) (frontier : List Nat)
    (hsize : seen.size = last + 1) (hf : IsPositions last frontier)
    (hclosed : ∀ i, seen.getD i false = true → i ∉ frontier →
      ∀ j, rel i j → seen.getD j false = true)
    (hmarked : ∀ i ∈ frontier, seen.getD i false = true)
    (hfuel : unseen last seen ≤ fuel) :
    (∀ i, seen.getD i false = true → (spread step fuel seen frontier).getD i false = true) ∧
      (∀ i j, i ≤ last → (spread step fuel seen frontier).getD i false = true → rel i j →
        (spread step fuel seen frontier).getD j false = true) ∧
      ∀ j, (spread step fuel seen frontier).getD j false = true →
        ∃ i, seen.getD i false = true ∧ Reaches rel i j := by
  induction fuel generalizing seen frontier with
  | zero =>
    refine ⟨fun i hi => hi, fun i j hi _ hij => ?_, fun j hj => ⟨j, hj, .refl j⟩⟩
    have hj := hstep.le hi hij
    have hall := List.countP_eq_zero.1 (Nat.le_zero.1 hfuel) j (List.mem_range.2 (by omega))
    simpa [spread] using hall
  | succ fuel ih =>
    obtain ⟨hpos, hmem⟩ := hstep frontier hf
    rw [spread]
    split
    · next hnil =>
      refine ⟨fun i hi => hi, fun i j hi hseen hij => ?_, fun j hj => ⟨j, hj, .refl j⟩⟩
      by_cases hif : i ∈ frontier
      · have hj := hstep.le hi hij
        have hjs := (List.filter_eq_nil_iff.1 hnil) j ((hmem j).2 ⟨i, hif, hij⟩)
        simpa [Array.getD, hsize, Nat.lt_succ_of_le hj] using hjs
      · exact hclosed i hseen hif j hij
    · next hne =>
      have hfresh : ∀ j, j ∈ (step frontier).filter (fun i => !seen.getD i true) ↔
          (∃ i ∈ frontier, rel i j) ∧ seen.getD j false = false := by
        intro j
        rw [List.mem_filter, hmem]
        refine and_congr_right fun ⟨i, hi, hij⟩ => ?_
        have hj := hstep.le (hf.2 i hi) hij
        simp [Array.getD, hsize, Nat.lt_succ_of_le hj]
      generalize hfr : (step frontier).filter (fun i => !seen.getD i true) = fresh at *
      have hfpos : IsPositions last fresh := hfr ▸ hpos.filter _
      have hmark : ∀ j, (mark seen fresh).getD j false = true ↔
          seen.getD j false = true ∨ j ∈ fresh := by
        intro j
        by_cases hj : j < seen.size
        · rw [getD_mark seen fresh j hj]
          simp
        · have h1 : j ∉ fresh := fun hjf => by
            have := hfpos.2 j hjf
            omega
          simp [Array.getD, hj, h1]
      obtain ⟨h1, h2, h3⟩ := ih (mark seen fresh) fresh (by simpa using hsize) hfpos
        (fun i hi hif j hij => by
          rcases (hmark i).1 hi with hi | hi
          · by_cases hi' : i ∈ frontier
            · by_cases hj : seen.getD j false = true
              · exact (hmark j).2 (.inl hj)
              · exact (hmark j).2 (.inr ((hfresh j).2 ⟨⟨i, hi', hij⟩, by simpa using hj⟩))
            · exact (hmark j).2 (.inl (hclosed i hi hi' j hij))
          · exact absurd hi hif)
        (fun i hi => (hmark i).2 (.inr hi))
        (by
          obtain ⟨i, hi⟩ := List.exists_mem_of_ne_nil fresh (by simpa using hne)
          have := unseen_mark_lt hsize hi (hfpos.2 i hi) ((hfresh i).1 hi).2
          omega)
      refine ⟨fun i hi => h1 i ((hmark i).2 (.inl hi)), h2, fun j hj => ?_⟩
      obtain ⟨i, hi, hij⟩ := h3 j hj
      rcases (hmark i).1 hi with hi | hi
      · exact ⟨i, hi, hij⟩
      · obtain ⟨⟨k, hk, hki⟩, -⟩ := (hfresh i).1 hi
        exact ⟨k, hmarked k hk, .head hki hij⟩

theorem getD_replicate_false (n i : Nat) :
    (Array.replicate n false).getD i false = false := by
  by_cases h : i < n <;> simp [Array.getD, h]

theorem closure_spec {last : Nat} {rel : Nat → Nat → Prop} {step : List Nat → List Nat}
    (hstep : StepsBy last rel step) : StepsBy last (Reaches rel) (closure step last) := by
  intro ps hps
  have hmark : ∀ i, (mark (Array.replicate (last + 1) false) ps).getD i false = true ↔
      i ∈ ps := by
    intro i
    by_cases hi : i < last + 1
    · rw [getD_mark _ _ _ (by simpa using hi), getD_replicate_false]
      simp
    · have h1 : i ∉ ps := fun h => by
        have := hps.2 i h
        omega
      simp [Array.getD, hi, h1]
  obtain ⟨h1, h2, h3⟩ := spread_spec hstep (last + 1) (mark (Array.replicate (last + 1) false) ps)
    ps (by simp) hps (fun i hi hif => absurd ((hmark i).1 hi) hif) (fun i hi => (hmark i).2 hi)
    (by
      have := List.countP_le_length (l := List.range (last + 1))
        (p := fun i => !(mark (Array.replicate (last + 1) false) ps).getD i false)
      simpa [unseen] using this)
  refine ⟨(isPositions_range last).filter _, fun j => ?_⟩
  rw [closure, List.mem_filter, List.mem_range]
  constructor
  · rintro ⟨-, hj⟩
    obtain ⟨i, hi, hij⟩ := h3 j hj
    exact ⟨i, (hmark i).1 hi, hij⟩
  · rintro ⟨i, hi, hij⟩
    have hi1 := h1 i ((hmark i).2 hi)
    have hi2 := hps.2 i hi
    clear hi
    induction hij with
    | refl i => exact ⟨by omega, hi1⟩
    | head hij _ ih => exact ih (h2 _ _ hi2 hi1 hij) (hstep.le hi2 hij)

end Positions

/-! ## Patterns -/

open Positions

section

variable {text : Array Char}

theorem matches_star_iff {p : Pattern} {i j : Nat} :
    Matches text (.star p) i j ↔ Reaches (Matches text p) i j := by
  constructor
  · intro h
    generalize hq : Pattern.star p = q at h
    induction h with
    | starNil => exact .refl _
    | starCons hp _ _ ih =>
      cases hq
      exact .head hp (ih rfl)
    | _ => cases hq
  · intro h
    induction h with
    | refl i => exact .starNil
    | head hij _ ih => exact .starCons hij ih

theorem matches_set_iff {s : CharSet} {i j : Nat} :
    Matches text (.set s) i j ↔ j = i + 1 ∧ text[i]?.any s.contains = true := by
  constructor
  · rintro ⟨hc, hs⟩
    simp_all
  · rintro ⟨rfl, h⟩
    cases hc : text[i]? with
    | none => simp [hc] at h
    | some c => exact .set hc (by simpa [hc] using h)

theorem stepsBy_set (s : CharSet) :
    StepsBy text.size (Matches text (.set s)) (Pattern.ends text (.set s)) := by
  intro ps hps
  have hlt : ∀ i, text[i]?.any s.contains = true → i < text.size := by
    intro i hi
    by_cases h : i < text.size
    · exact h
    · simp [h] at hi
  refine ⟨⟨?_, ?_⟩, fun j => ?_⟩
  · rw [Pattern.ends, List.pairwise_map]
    exact (hps.1.filter _).imp fun h => by omega
  · intro j hj
    obtain ⟨i, hi, rfl⟩ := List.mem_map.1 hj
    exact hlt i (List.mem_filter.1 hi).2
  · rw [Pattern.ends, List.mem_map]
    simp only [List.mem_filter, matches_set_iff]
    constructor
    · rintro ⟨i, ⟨hi, hs⟩, rfl⟩
      exact ⟨i, hi, rfl, hs⟩
    · rintro ⟨i, hi, rfl, hs⟩
      exact ⟨i, ⟨hi, hs⟩, rfl⟩

theorem stepsBy_star_set (s : CharSet) :
    StepsBy text.size (Matches text (.star (.set s))) (Pattern.ends text (.star (.set s))) := by
  intro ps hps
  have hlt : ∀ i, text[i]?.any s.contains = true → i < text.size := by
    intro i hi
    by_cases h : i < text.size
    · exact h
    · simp [h] at hi
  obtain ⟨hpos, hmem⟩ := sweep_spec hlt (text.size + 1) ps hps fun i _ => by omega
  refine ⟨by rwa [Pattern.ends], fun j => ?_⟩
  rw [Pattern.ends, hmem]
  refine exists_congr fun i => and_congr_right fun hi => ?_
  clear hi
  rw [matches_star_iff]
  constructor
  · rintro ⟨hij, hstep⟩
    obtain ⟨n, rfl⟩ := Nat.exists_eq_add_of_le hij
    clear hij
    induction n with
    | zero => exact .refl i
    | succ n ih =>
      exact (ih fun k h1 h2 => hstep k h1 (by omega)).tail
        (matches_set_iff.2 ⟨by omega, hstep (i + n) (by omega) (by omega)⟩)
  · intro h
    induction h with
    | refl i => exact ⟨Nat.le_refl i, fun k h1 h2 => by omega⟩
    | head hij _ ih =>
      obtain ⟨rfl, hs⟩ := matches_set_iff.1 hij
      exact sweepsTo_iff.2 (.inr ⟨hs, ih⟩)

theorem mem_times_of_fixed {p : Pattern} {ps : List Nat}
    (hmem : ∀ j, j ∈ ps ↔ ∃ i ∈ ps, Matches text p i j) (n j : Nat) :
    j ∈ ps ↔ ∃ i ∈ ps, Matches text (.times p n) i j := by
  induction n generalizing j with
  | zero =>
    refine ⟨fun hj => ⟨j, hj, .timesZero⟩, ?_⟩
    rintro ⟨i, hi, ⟨⟩⟩
    exact hi
  | succ n ih =>
    constructor
    · intro hj
      obtain ⟨m, hm, hmj⟩ := (ih j).1 hj
      obtain ⟨i, hi, him⟩ := (hmem m).1 hm
      exact ⟨i, hi, .timesSucc him hmj⟩
    · rintro ⟨i, hi, hij⟩
      cases hij with
      | timesSucc him hmj => exact (ih j).2 ⟨_, (hmem _).2 ⟨i, hi, him⟩, hmj⟩

theorem stepsBy_times {p : Pattern}
    (hp : StepsBy text.size (Matches text p) (p.ends text)) (n : Nat) :
    StepsBy text.size (Matches text (.times p n)) (repeatStep (p.ends text) n) := by
  induction n with
  | zero =>
    intro ps hps
    refine ⟨hps, fun j => ⟨fun hj => ⟨j, hj, .timesZero⟩, ?_⟩⟩
    rintro ⟨i, hi, ⟨⟩⟩
    exact hi
  | succ n ih =>
    intro ps hps
    obtain ⟨hpos, hmem⟩ := hp ps hps
    rw [repeatStep]
    split
    · next hfixed =>
      rw [hfixed] at hmem
      exact ⟨hps, fun j => mem_times_of_fixed hmem (n + 1) j⟩
    · obtain ⟨ihpos, ihmem⟩ := ih _ hpos
      refine ⟨ihpos, fun j => (ihmem j).trans ?_⟩
      constructor
      · rintro ⟨m, hm, hmj⟩
        obtain ⟨i, hi, him⟩ := (hmem m).1 hm
        exact ⟨i, hi, .timesSucc him hmj⟩
      · rintro ⟨i, hi, hij⟩
        cases hij with
        | timesSucc him hmj => exact ⟨_, (hmem _).2 ⟨i, hi, him⟩, hmj⟩

/-- From positions inside the text, `Pattern.ends` lists the ends of all matches. -/
theorem stepsBy_ends (p : Pattern) :
    StepsBy text.size (Matches text p) (p.ends text) := by
  induction p with
  | empty =>
    intro ps hps
    refine ⟨hps, fun j => ⟨fun hj => ⟨j, hj, .empty⟩, ?_⟩⟩
    rintro ⟨i, hi, ⟨⟩⟩
    exact hi
  | set s => exact stepsBy_set s
  | assertion a =>
    intro ps hps
    refine ⟨hps.filter _, fun j => ?_⟩
    rw [Pattern.ends, List.mem_filter]
    constructor
    · rintro ⟨hj, ha⟩
      exact ⟨j, hj, .assertion ha⟩
    · rintro ⟨i, hi, hij⟩
      cases hij with
      | assertion ha => exact ⟨hi, ha⟩
  | seq p q ihp ihq =>
    intro ps hps
    obtain ⟨hpos, hmem⟩ := ihp ps hps
    obtain ⟨hqpos, hqmem⟩ := ihq _ hpos
    refine ⟨hqpos, fun j => ?_⟩
    rw [Pattern.ends, hqmem]
    constructor
    · rintro ⟨m, hm, hmj⟩
      obtain ⟨i, hi, him⟩ := (hmem m).1 hm
      exact ⟨i, hi, .seq him hmj⟩
    · rintro ⟨i, hi, ⟨⟩⟩
      exact ⟨_, (hmem _).2 ⟨i, hi, by assumption⟩, by assumption⟩
  | alt p q ihp ihq =>
    intro ps hps
    obtain ⟨hppos, hpmem⟩ := ihp ps hps
    obtain ⟨hqpos, hqmem⟩ := ihq ps hps
    refine ⟨IsPositions.union hppos hqpos, fun j => ?_⟩
    rw [Pattern.ends, mem_union, hpmem, hqmem]
    constructor
    · rintro (⟨i, hi, h⟩ | ⟨i, hi, h⟩)
      · exact ⟨i, hi, .altLeft h⟩
      · exact ⟨i, hi, .altRight h⟩
    · rintro ⟨i, hi, h | h⟩
      · exact .inl ⟨i, hi, by assumption⟩
      · exact .inr ⟨i, hi, by assumption⟩
  | star p ih =>
    by_cases hset : ∃ s, p = .set s
    · obtain ⟨s, rfl⟩ := hset
      exact stepsBy_star_set s
    · intro ps hps
      have hclosure := closure_spec ih ps hps
      have heq : (Pattern.star p).ends text ps =
          if ps.isEmpty then [] else closure (p.ends text) text.size ps := by
        rw [Pattern.ends]
        exact fun s hs => hset ⟨s, hs⟩
      rw [heq]
      cases ps with
      | nil => exact ⟨hps, by simp⟩
      | cons k ps =>
        refine ⟨hclosure.1, fun j => (hclosure.2 j).trans ?_⟩
        exact exists_congr fun i => and_congr_right fun _ => matches_star_iff.symm
  | times p n ih => exact stepsBy_times ih n

/-- A pattern occurs in a text exactly when it matches some part of it. -/
theorem occursIn_iff {p : Pattern} :
    p.occursIn text = true ↔ ∃ i j, i ≤ text.size ∧ Matches text p i j := by
  have hmem := (stepsBy_ends p _ (isPositions_range text.size)).2
  rw [Pattern.occursIn, Bool.not_eq_true', List.isEmpty_eq_false_iff_exists_mem]
  constructor
  · rintro ⟨j, hj⟩
    obtain ⟨i, hi, hij⟩ := (hmem j).1 hj
    have := List.mem_range.1 hi
    exact ⟨i, j, by omega, hij⟩
  · rintro ⟨i, j, hi, hij⟩
    exact ⟨j, (hmem j).2 ⟨i, List.mem_range.2 (by omega), hij⟩⟩

end

end ChatTriage
