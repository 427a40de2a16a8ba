import ChatTriage.Pattern.CharSet
import ChatTriage.Unicode.Utf8
import Mathlib.Algebra.GroupWithZero.Nat

/-!
# The size of character sets

How many boundaries a set has at most, how many intervals these make, and how many byte
ranges write an interval.
-/

namespace ChatTriage

open Unicode

namespace Unicode

namespace CodePointSet

variable {keep : Bool → Bool → Bool}

theorem length_combineFrom_le (keep : Bool → Bool → Bool) (fuel : Nat)
    (inFirst inSecond : Bool) (xs ys : List Nat) :
    (combineFrom keep fuel inFirst inSecond xs ys).length ≤ xs.length + ys.length := by
  induction fuel generalizing inFirst inSecond xs ys with
  | zero => exact Nat.zero_le _
  | succ fuel ih =>
      -- A step takes a boundary from one of the lists, or from both, and keeps one at most.
      have hstep : ∀ (n : Nat) (first second : Bool) (xs ys : List Nat),
          (if keep first second == keep inFirst inSecond then
            combineFrom keep fuel first second xs ys
          else n :: combineFrom keep fuel first second xs ys).length ≤
            xs.length + ys.length + 1 := by
        intro n first second xs ys
        have hrest := ih first second xs ys
        split
        · omega
        · rw [List.length_cons]
          omega
      cases xs with
      | nil =>
          cases ys with
          | nil => exact Nat.zero_le _
          | cons y ys =>
              have h := hstep y inFirst (!inSecond) [] ys
              simp only [List.length_nil, List.length_cons] at h ⊢
              exact Nat.le_trans h (by omega)
      | cons x xs =>
          cases ys with
          | nil => exact hstep x (!inFirst) inSecond xs []
          | cons y ys =>
              have hfirst := hstep x (!inFirst) inSecond xs (y :: ys)
              have hsecond := hstep y inFirst (!inSecond) (x :: xs) ys
              have hboth := hstep x (!inFirst) (!inSecond) xs ys
              simp only [List.length_cons] at hfirst hsecond hboth ⊢
              simp only [combineFrom]
              split
              · exact Nat.le_trans hfirst (by omega)
              · split
                · exact hsecond
                · exact Nat.le_trans hboth (by omega)

/-- A combination that leaves out what is in neither set has no boundary but those of the two. -/
theorem size_combine_le (hkeep : keep false false = false) (s t : CodePointSet) :
    (combine keep s t).boundaries.size ≤ s.boundaries.size + t.boundaries.size := by
  have hle := length_combineFrom_le keep (s.boundaries.toList.length + t.boundaries.toList.length)
    false false s.boundaries.toList t.boundaries.toList
  simp only [combine, hkeep, List.size_toArray]
  simpa using hle

theorem size_union_le (s t : CodePointSet) :
    (s.union t).boundaries.size ≤ s.boundaries.size + t.boundaries.size :=
  size_combine_le rfl s t

theorem size_diff_le (s t : CodePointSet) :
    (s.diff t).boundaries.size ≤ s.boundaries.size + t.boundaries.size :=
  size_combine_le rfl s t

theorem size_interval_le (low high : Nat) : (interval low high).boundaries.size ≤ 2 := by
  unfold interval
  split
  · exact Nat.le_refl 2
  · exact Nat.zero_le 2

theorem size_diff_surrogates_le (s : CodePointSet) :
    (s.diff surrogates).boundaries.size ≤ s.boundaries.size + 2 :=
  size_diff_le s surrogates

theorem sum_size_joinPairs_le (sets : List CodePointSet) :
    ((joinPairs sets).map (·.boundaries.size)).sum ≤ (sets.map (·.boundaries.size)).sum := by
  induction sets using joinPairs.induct with
  | case1 s t sets ih =>
      have hunion := size_union_le s t
      simp only [joinPairs, List.map_cons, List.sum_cons]
      omega
  | case2 sets h =>
      unfold joinPairs
      split
      · exact absurd rfl (h _ _ _)
      · exact Nat.le_refl _

theorem size_unionAll_le (fuel : Nat) (sets : List CodePointSet) :
    (unionAll fuel sets).boundaries.size ≤ (sets.map (·.boundaries.size)).sum := by
  induction fuel generalizing sets with
  | zero =>
      match sets with
      | [] => exact Nat.le_refl 0
      | [s] => simp [unionAll]
      | _ :: _ :: _ => exact Nat.zero_le _
  | succ fuel ih =>
      match sets with
      | [] => exact Nat.le_refl 0
      | [s] => simp [unionAll]
      | s :: t :: sets => exact Nat.le_trans (ih _) (sum_size_joinPairs_le _)

theorem length_pairUp_le (xs : List Nat) : 2 * (pairUp xs).length ≤ xs.length + 1 := by
  induction xs using pairUp.induct with
  | case1 => exact Nat.zero_le 1
  | case2 low => exact Nat.le_refl 2
  | case3 low next rest ih =>
      simp only [pairUp, List.length_cons]
      omega

theorem length_intervals_le (s : CodePointSet) :
    2 * s.intervals.length ≤ s.boundaries.size + 3 := by
  have hfilter : s.intervals.length ≤ (pairUp (s.diff surrogates).boundaries.toList).length :=
    List.length_filter_le _ _
  have hpairs := length_pairUp_le (s.diff surrogates).boundaries.toList
  rw [Array.length_toList] at hpairs
  exact Nat.le_trans (Nat.mul_le_mul_left 2 hfilter)
    (Nat.le_trans hpairs (Nat.succ_le_succ (size_diff_surrogates_le s)))

end CodePointSet

/-! ## Rows of byte ranges -/

namespace ByteRange

theorem length_ite_le {α : Type} (p : Prop) [Decidable p] (xs ys : List α) :
    (if p then xs else ys).length ≤ max xs.length ys.length := by
  split
  · exact Nat.le_max_left _ _
  · exact Nat.le_max_right _ _

theorem length_digitRows_lt (mark more low high : Nat) :
    (digitRows mark more low high).length < 2 ^ (more + 1) := by
  induction more generalizing mark low high with
  | zero => exact Nat.one_lt_two
  | succ more ih =>
      have hpow : 2 ^ (more + 1 + 1) = 2 ^ (more + 1) + 2 ^ (more + 1) := by
        rw [Nat.pow_succ, Nat.mul_two]
      unfold digitRows
      extract_lets unit first last under start stop
      have hunder : ∀ digit low high, (under digit low high).length < 2 ^ (more + 1) :=
        fun digit low high => by
          rw [List.length_map]
          exact ih _ _ _
      have hfirst := hunder first (low % unit) (unit - 1)
      have hlast := hunder last 0 (high % unit)
      split
      · have := hunder first (low % unit) (high % unit)
        omega
      · rw [List.length_append, List.length_append]
        have hstart := length_ite_le (start = first) [] (under first (low % unit) (unit - 1))
        have hmiddle := length_ite_le (start < stop)
          [(⟨mark + start, mark + stop - 1⟩ : ByteRange) ::
            List.replicate (more + 1) continuation] []
        have hstop := length_ite_le (stop = last) (under last 0 (high % unit)) []
        simp only [List.length_nil, List.length_singleton] at hstart hmiddle hstop
        omega

theorem length_of_mem_digitRows {row : List ByteRange} {mark more low high : Nat}
    (h : row ∈ digitRows mark more low high) : row.length = more + 1 := by
  induction more generalizing mark low high row with
  | zero =>
      rw [digitRows, List.mem_singleton] at h
      rw [h]
      rfl
  | succ more ih =>
      unfold digitRows at h
      extract_lets unit first last under start stop at h
      have hunder : ∀ digit low high, ∀ row ∈ under digit low high, row.length = more + 2 :=
        fun digit low high => by
          rw [List.forall_mem_map]
          intro row hrow
          rw [List.length_cons, ih hrow]
      split at h
      · exact hunder _ _ _ _ h
      · rcases List.mem_append.1 h with h | h
        · rcases List.mem_append.1 h with h | h
          · split at h
            · cases h
            · exact hunder _ _ _ _ h
          · split at h
            · obtain rfl := List.mem_singleton.1 h
              rw [List.length_cons, List.length_replicate]
            · cases h
        · split at h
          · exact hunder _ _ _ _ h
          · cases h

theorem sum_length_digitRows_le (mark more low high : Nat) :
    ((digitRows mark more low high).map List.length).sum ≤
      (more + 1) * (2 ^ (more + 1) - 1) := by
  have hlengths : (digitRows mark more low high).map List.length =
      List.replicate (digitRows mark more low high).length (more + 1) :=
    List.eq_replicate_iff.2 ⟨List.length_map _, List.forall_mem_map.2 fun _ =>
      length_of_mem_digitRows⟩
  have hlt := length_digitRows_lt mark more low high
  rw [hlengths, List.sum_replicate_nat, Nat.mul_comm]
  exact Nat.mul_le_mul_left _ (by omega)

/-- An interval is parted by the number of bytes that its characters take. -/
theorem length_rows_le (i : Nat × Nat) :
    (rows i).length ≤ 26 ∧ ((rows i).map List.length).sum ≤ 88 := by
  obtain ⟨low, high⟩ := i
  have hclass : ∀ first last mark more : Nat,
      (if max low first ≤ min high last then
        digitRows mark more (max low first) (min high last) else []).length <
          2 ^ (more + 1) ∧
      ((if max low first ≤ min high last then
        digitRows mark more (max low first) (min high last) else []).map List.length).sum ≤
          (more + 1) * (2 ^ (more + 1) - 1) := by
    intro first last mark more
    split
    · exact ⟨length_digitRows_lt _ _ _ _, sum_length_digitRows_le _ _ _ _⟩
    · exact ⟨Nat.two_pow_pos _, Nat.zero_le _⟩
  have h1 := hclass 0 0x7F 0 0
  have h2 := hclass 0x80 0x7FF 0xC0 1
  have h3 := hclass 0x800 0xFFFF 0xE0 2
  have h4 := hclass 0x10000 0x10FFFF 0xF0 3
  simp only [rows, List.flatMap_cons, List.flatMap_nil, List.append_nil, List.length_append,
    List.map_append, List.sum_append_nat]
  omega

end ByteRange

end Unicode

namespace CharSet

/-- A bound for the boundaries of a set that is found without working the set out, except for
case variants of other than ASCII letters; the few marks between these have none. -/
def boundaryBound : CharSet → Nat
  | empty => 0
  | range _ _ => 2
  | caselessRange low high =>
    if low = high ∧ 'A' ≤ low ∧ low ≤ 'z' then 6
    else (widenCase (.interval low.toNat high.toNat)).boundaries.size
  | word => 1592
  | digit => 142
  | blank => 20
  | union s t => s.boundaryBound + t.boundaryBound
  | symmDiff s t => s.boundaryBound + t.boundaryBound
  | complement s => s.boundaryBound + 2

theorem size_widenCase_le {c : Char} (hlow : 'A' ≤ c) (hhigh : c ≤ 'z') :
    (widenCase (.interval c.toNat c.toNat)).boundaries.size ≤ 6 := by
  have hletters : ∀ n < 123, 65 ≤ n → (widenCase (.interval n n)).boundaries.size ≤ 6 := by
    decide +kernel
  have hlow : 65 ≤ c.toNat := UInt32.le_iff_toNat_le.1 hlow
  have hhigh : c.toNat ≤ 122 := UInt32.le_iff_toNat_le.1 hhigh
  exact hletters _ (Nat.lt_succ_of_le hhigh) hlow

theorem size_codePoints_le (s : CharSet) :
    s.codePoints.boundaries.size ≤ s.boundaryBound := by
  induction s with
  | empty => exact Nat.le_refl 0
  | range low high => exact CodePointSet.size_interval_le _ _
  | caselessRange low high =>
      rw [codePoints, boundaryBound]
      split
      next h =>
        obtain ⟨rfl, hlow, hhigh⟩ := h
        exact size_widenCase_le hlow hhigh
      next => exact Nat.le_refl _
  | word => decide +kernel
  | digit => decide +kernel
  | blank => decide
  | union s t hs ht =>
      exact Nat.le_trans (CodePointSet.size_union_le _ _) (Nat.add_le_add hs ht)
  | symmDiff s t hs ht =>
      exact Nat.le_trans (CodePointSet.size_combine_le rfl _ _) (Nat.add_le_add hs ht)
  | complement s hs =>
      rw [codePoints, boundaryBound, Nat.add_comm]
      exact Nat.le_trans (CodePointSet.size_diff_le _ _)
        (Nat.add_le_add (CodePointSet.size_interval_le _ _) hs)

end CharSet

end ChatTriage
