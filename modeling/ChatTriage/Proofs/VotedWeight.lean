import ChatTriage.Candidate
import Mathlib.Data.List.Forall2
import Mathlib.Data.Nat.Basic
import Mathlib.Order.Monotone.Basic

/-!
# Weights in 32 bits

A weight is worked out in 32 bits from a count that may be longer. What does not fit 32 bits
is taken for the largest number whose double does, so the doubling goes wrong for one stretch
of counts alone: those that fit while their doubles do not. Of all others the weights are
exact, and they rank candidates as the counts do up to that largest number.
-/

namespace ChatTriage.Candidate

variable {m n matched : Nat} {w : UInt32} {ms : List MatchCount}

def fullWeight (hits : Nat) : Nat :=
  if hits ≤ 1 then hits else 2 * hits

/-- The count, or the largest number whose double fits 32 bits where the count is above it. -/
def capped (matched : Nat) : Nat :=
  min matched 2147483647

/-- The count fits 32 bits and its double does not. -/
def Overflows (matched : Nat) : Prop :=
  2147483648 ≤ matched ∧ matched ≤ 4294967295

instance : DecidablePred Overflows := fun matched =>
  inferInstanceAs (Decidable (2147483648 ≤ matched ∧ matched ≤ 4294967295))

theorem not_overflows_of_lt (h : n < 2147483648) : ¬ Overflows n := by
  rw [Overflows]
  omega

theorem strictMono_fullWeight : StrictMono fullWeight := by
  intro m n h
  unfold fullWeight
  split_ifs <;> omega

theorem fullWeight_pos (h : 0 < n) : 0 < fullWeight n :=
  strictMono_fullWeight h

theorem capped_pos (h : 0 < n) : 0 < capped n := by
  unfold capped
  omega

theorem fullWeight_capped_le (n : Nat) : fullWeight (capped n) ≤ 4294967294 := by
  unfold fullWeight capped
  split_ifs <;> omega

/-! ## Weights of 32 bits -/

def count32 (matched : Nat) : UInt32 :=
  if matched < 4294967296 then matched.toUInt32 else 2147483647

/-- The weight with the doubling checked: there is none where the double does not fit. -/
def checkedWeightFor? (matched : Nat) : Option UInt32 :=
  if count32 matched ≤ 1 then some (count32 matched)
  else if (count32 matched).toNat * 2 < UInt32.size then some (count32 matched * 2)
  else none

theorem weightFor_eq (matched : Nat) :
    weightFor matched =
      if count32 matched ≤ 1 then count32 matched else count32 matched * 2 :=
  rfl

theorem toNat_count32 (matched : Nat) :
    (count32 matched).toNat = if matched < 4294967296 then matched else 2147483647 := by
  unfold count32
  split_ifs with hfits
  · rw [Nat.toUInt32_eq, UInt32.toNat_ofNat_of_lt' hfits]
  · rfl

theorem toNat_count32_of_not_overflows (h : ¬ Overflows matched) :
    (count32 matched).toNat = capped matched := by
  rw [Overflows] at h
  rw [toNat_count32, capped]
  split_ifs <;> omega

theorem count32_le_one_iff : count32 matched ≤ 1 ↔ (count32 matched).toNat ≤ 1 :=
  UInt32.le_iff_toNat_le

theorem double_fits_iff : (count32 matched).toNat * 2 < UInt32.size ↔ ¬ Overflows matched := by
  rw [toNat_count32, Overflows, UInt32.size]
  split_ifs <;> omega

theorem checkedWeightFor?_eq_some_iff :
    checkedWeightFor? matched = some w ↔ ¬ Overflows matched ∧ weightFor matched = w := by
  rw [checkedWeightFor?, weightFor_eq, ← double_fits_iff]
  split_ifs with hone hfits
  · have hfits : (count32 matched).toNat * 2 < UInt32.size := by
      rw [count32_le_one_iff] at hone
      rw [UInt32.size]
      omega
    simp [hfits]
  · simp [hfits]
  · simp [hfits]

theorem toNat_weightFor (h : ¬ Overflows matched) :
    (weightFor matched).toNat = fullWeight (capped matched) := by
  have hfits := double_fits_iff.2 h
  rw [weightFor_eq, fullWeight, ← toNat_count32_of_not_overflows h]
  simp only [count32_le_one_iff]
  split_ifs with hone
  · rfl
  · calc (count32 matched * 2).toNat
      _ = (count32 matched).toNat * 2 % UInt32.size := UInt32.toNat_mul _ _
      _ = (count32 matched).toNat * 2 := Nat.mod_eq_of_lt hfits
      _ = 2 * (count32 matched).toNat := Nat.mul_comm _ _

theorem weightFor_pos (hpos : 0 < matched) (h : ¬ Overflows matched) :
    1 ≤ weightFor matched := by
  rw [UInt32.le_iff_toNat_le, toNat_weightFor h]
  exact fullWeight_pos (capped_pos hpos)

theorem compare_weightFor (hm : ¬ Overflows m) (hn : ¬ Overflows n) :
    compare (weightFor m) (weightFor n) = compare (capped m) (capped n) := by
  rw [UInt32.compare_eq_toNat_compare_toNat, toNat_weightFor hm, toNat_weightFor hn,
    ← cmp_eq_compare, ← cmp_eq_compare, strictMono_fullWeight.cmp_map_eq]

theorem weightFor_le_weightFor (hm : ¬ Overflows m) (hn : ¬ Overflows n) (h : m ≤ n) :
    weightFor m ≤ weightFor n := by
  rw [UInt32.le_iff_toNat_le, toNat_weightFor hm, toNat_weightFor hn,
    strictMono_fullWeight.le_iff_le, capped, capped]
  omega

theorem weightFor_lt_weightFor (h : m < n) (hn : n < 2147483648) :
    weightFor m < weightFor n := by
  rw [UInt32.lt_iff_toNat_lt, toNat_weightFor (not_overflows_of_lt (h.trans hn)),
    toNat_weightFor (not_overflows_of_lt hn), strictMono_fullWeight.lt_iff_lt, capped, capped]
  omega

def withHits (ms : List MatchCount) : List MatchCount :=
  ms.filter (·.matched ≠ 0)

theorem ofMatches_eq_map (ms : List MatchCount) :
    ofMatches ms = (withHits ms).map fun m => ⟨m.language, weightFor m.matched⟩ := by
  rw [ofMatches, withHits]
  congr 1
  exact List.filter_congr fun m _ => by simp [Nat.pos_iff_ne_zero]

theorem eq_of_mem_zip_ofMatches {p : MatchCount × Candidate}
    (h : p ∈ (withHits ms).zip (ofMatches ms)) :
    p.1 ∈ ms ∧ p.2 = ⟨p.1.language, weightFor p.1.matched⟩ := by
  rw [ofMatches_eq_map, ← List.map_prod_left_eq_zip] at h
  obtain ⟨m, hm, rfl⟩ := List.mem_map.1 h
  exact ⟨(List.mem_filter.1 hm).1, rfl⟩

structure RanksAsCounted (ms : List MatchCount) (cs : List Candidate) : Prop where
  /-- Every language with a hit has its candidate, in order and at its exact weight. -/
  aligned : List.Forall₂
    (fun m c => c.language = m.language ∧ c.weight.toNat = fullWeight (capped m.matched))
    (withHits ms) cs
  weight_bounds : ∀ c ∈ cs, 1 ≤ c.weight.toNat ∧ c.weight.toNat ≤ 4294967294
  /-- No doubling wraps on the way to a weight. -/
  checked : ∀ m ∈ ms, checkedWeightFor? m.matched = some (weightFor m.matched)
  compare_eq : ∀ p ∈ (withHits ms).zip cs, ∀ q ∈ (withHits ms).zip cs,
    compare p.2.weight q.2.weight = compare (capped p.1.matched) (capped q.1.matched)
  weight_lt : ∀ p ∈ (withHits ms).zip cs, ∀ q ∈ (withHits ms).zip cs,
    p.1.matched < q.1.matched → q.1.matched < 2147483648 → p.2.weight < q.2.weight
  weight_le : ∀ p ∈ (withHits ms).zip cs, ∀ q ∈ (withHits ms).zip cs,
    p.1.matched ≤ q.1.matched → p.2.weight ≤ q.2.weight

/-- Votes keep the order and the ranking of the counts, and no weight wraps, as long as no count
fits 32 bits without its double. -/
theorem ofMatches_ranksAsCounted (h : ∀ m ∈ ms, ¬ Overflows m.matched) :
    RanksAsCounted ms (ofMatches ms) where
  aligned := by
    rw [ofMatches_eq_map, List.forall₂_map_right_iff, List.forall₂_same]
    intro m hm
    exact ⟨rfl, toNat_weightFor (h m (List.mem_filter.1 hm).1)⟩
  weight_bounds := by
    intro c hc
    rw [ofMatches_eq_map] at hc
    obtain ⟨m, hm, rfl⟩ := List.mem_map.1 hc
    obtain ⟨hmem, hhit⟩ := List.mem_filter.1 hm
    have hpos : 0 < m.matched := Nat.pos_of_ne_zero (of_decide_eq_true hhit)
    refine ⟨UInt32.le_iff_toNat_le.1 (weightFor_pos hpos (h m hmem)), ?_⟩
    rw [toNat_weightFor (h m hmem)]
    exact fullWeight_capped_le _
  checked := fun m hm => checkedWeightFor?_eq_some_iff.2 ⟨h m hm, rfl⟩
  compare_eq := by
    intro p hp q hq
    obtain ⟨hpm, hpc⟩ := eq_of_mem_zip_ofMatches hp
    obtain ⟨hqm, hqc⟩ := eq_of_mem_zip_ofMatches hq
    rw [hpc, hqc, compare_weightFor (h _ hpm) (h _ hqm)]
  weight_lt := by
    intro p hp q hq hlt hsmall
    rw [(eq_of_mem_zip_ofMatches hp).2, (eq_of_mem_zip_ofMatches hq).2]
    exact weightFor_lt_weightFor hlt hsmall
  weight_le := by
    intro p hp q hq hle
    obtain ⟨hpm, hpc⟩ := eq_of_mem_zip_ofMatches hp
    obtain ⟨hqm, hqc⟩ := eq_of_mem_zip_ofMatches hq
    rw [hpc, hqc]
    exact weightFor_le_weightFor (h _ hpm) (h _ hqm) hle

/-- Counts on both sides of those whose doubles do not fit, the largest of 64 bits among
them. -/
def extremeCounts : List MatchCount :=
  [⟨.go, 2147483646⟩, ⟨.java, 0⟩, ⟨.rust, 18446744073709551615⟩, ⟨.cpp, 1⟩,
    ⟨.css, 2147483647⟩, ⟨.php, 4294967296⟩, ⟨.sql, 2⟩]

theorem ofMatches_ranksAsCounted_extremes :
    (∀ m ∈ extremeCounts, ¬ Overflows m.matched) ∧
      RanksAsCounted extremeCounts
        [⟨.go, 4294967292⟩, ⟨.rust, 4294967294⟩, ⟨.cpp, 1⟩, ⟨.css, 4294967294⟩,
          ⟨.php, 4294967294⟩, ⟨.sql, 4⟩] := by
  have hsafe : ∀ m ∈ extremeCounts, ¬ Overflows m.matched := by decide
  have hvotes : ofMatches extremeCounts =
      [⟨.go, 4294967292⟩, ⟨.rust, 4294967294⟩, ⟨.cpp, 1⟩, ⟨.css, 4294967294⟩,
        ⟨.php, 4294967294⟩, ⟨.sql, 4⟩] := by
    decide
  exact ⟨hsafe, hvotes ▸ ofMatches_ranksAsCounted hsafe⟩

end ChatTriage.Candidate
