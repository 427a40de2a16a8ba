import ChatTriage.Proofs.Link
import Mathlib.Data.List.DropRight

/-!
# What trimming leaves of a link

A text is clean when it ends neither in the punctuation of a sentence nor in a closing
parenthesis that has no partner. Trimming leaves the longest clean beginning of a link, in
whatever mix punctuation and parentheses stand at its end: it takes its steps one character
at a time, and in rounds of a parenthesis and the punctuation in front of it they come to
the same.
-/

namespace ChatTriage.Link

variable {u p : List Char} {c : Char}

/-- The text ends in no punctuation, and in a closing parenthesis only if it closes no more
of them than it opens. -/
structure IsClean (u : List Char) : Prop where
  not_punctuation : ∀ c ∈ u.getLast?, c ∉ ['.', ',', ';', ':', '!', '?']
  balanced : ')' ∈ u.getLast? → u.count ')' ≤ u.count '('

theorem isPunctuation_iff : isPunctuation c = true ↔ c ∈ ['.', ',', ';', ':', '!', '?'] := by
  simp [isPunctuation, or_assoc]

theorem isClean_nil : IsClean [] :=
  ⟨by simp, by simp⟩

theorem isClean_concat_iff :
    IsClean (u ++ [c]) ↔
      isPunctuation c = false ∧ (c = ')' → (u ++ [c]).count ')' ≤ (u ++ [c]).count '(') := by
  rw [Bool.eq_false_iff, ne_eq, isPunctuation_iff]
  constructor
  · intro h
    exact ⟨h.not_punctuation c (by simp), fun hc => h.balanced (by simp [hc])⟩
  · rintro ⟨hpunctuation, hbalanced⟩
    exact ⟨by simpa using hpunctuation, fun hlast => hbalanced (by simpa using hlast)⟩

theorem trim_concat_of_clean (h : IsClean (u ++ [c])) : trim (u ++ [c]) = u ++ [c] := by
  obtain ⟨hpunctuation, hbalanced⟩ := isClean_concat_iff.1 h
  have hreverse : (u ++ [c]).reverse = c :: u.reverse := by simp
  have hkeep : ¬ (c = ')' ∧ (c :: u.reverse).count '(' < (c :: u.reverse).count ')') := by
    rintro ⟨hc, hmore⟩
    rw [← hreverse, List.count_reverse, List.count_reverse] at hmore
    exact absurd (hbalanced hc) (Nat.not_le.2 hmore)
  rw [trim, hreverse, trimReversed, hpunctuation, if_neg Bool.false_ne_true, if_neg]
  · simp
  · simpa using hkeep

theorem trim_concat_of_not_clean (h : ¬ IsClean (u ++ [c])) : trim (u ++ [c]) = trim u := by
  have hreverse : (u ++ [c]).reverse = c :: u.reverse := by simp
  rw [trim, hreverse, trimReversed]
  cases hpunctuation : isPunctuation c with
  | true => rw [if_pos rfl, trim]
  | false =>
      rw [isClean_concat_iff, not_and, Classical.not_imp, Nat.not_le] at h
      obtain ⟨hc, hmore⟩ := h hpunctuation
      rw [← List.count_reverse, ← List.count_reverse (a := ')'), hreverse] at hmore
      rw [if_neg Bool.false_ne_true, if_pos, trim]
      simpa using ⟨hc, hmore⟩

theorem isClean_trim (u : List Char) : IsClean (trim u) := by
  induction u using List.reverseRecOn with
  | nil => exact isClean_nil
  | append_singleton u c ih =>
      by_cases h : IsClean (u ++ [c])
      · rwa [trim_concat_of_clean h]
      · rwa [trim_concat_of_not_clean h]

theorem prefix_trim_of_clean (hinitial : p <+: u) (hclean : IsClean p) : p <+: trim u := by
  induction u using List.reverseRecOn with
  | nil => exact hinitial
  | append_singleton u c ih =>
      by_cases h : IsClean (u ++ [c])
      · rwa [trim_concat_of_clean h]
      · rw [trim_concat_of_not_clean h]
        rcases List.prefix_concat_iff.1 hinitial with rfl | hshorter
        · exact absurd hclean h
        · exact ih hshorter

theorem isTrimmable_of_not_clean (h : ¬ IsClean (u ++ [c])) : isTrimmable c = true := by
  rw [isClean_concat_iff] at h
  by_contra htrimmable
  rw [isTrimmable, Bool.not_eq_true, Bool.or_eq_false_iff, beq_eq_false_iff_ne] at htrimmable
  exact h ⟨htrimmable.1, fun hc => absurd hc htrimmable.2⟩

theorem exists_trimmed_tail (u : List Char) :
    ∃ tail, u = trim u ++ tail ∧ ∀ c ∈ tail, isTrimmable c = true := by
  induction u using List.reverseRecOn with
  | nil => exact ⟨[], rfl, by simp⟩
  | append_singleton u c ih =>
      by_cases h : IsClean (u ++ [c])
      · exact ⟨[], by rw [trim_concat_of_clean h, List.append_nil], by simp⟩
      · obtain ⟨tail, hu, htail⟩ := ih
        refine ⟨tail ++ [c], ?_, List.forall_mem_append.2 ⟨htail, ?_⟩⟩
        · rw [trim_concat_of_not_clean h, ← List.append_assoc, ← hu]
        · exact List.forall_mem_singleton.2 (isTrimmable_of_not_clean h)

theorem trim_isPrefix (u : List Char) : trim u <+: u := by
  obtain ⟨tail, hu, -⟩ := exists_trimmed_tail u
  exact ⟨tail, hu.symm⟩

/-! ## Trimming in rounds -/

/-- Takes away a closing parenthesis at the end and the punctuation in front of it, for as
long as the text closes more of them than it opens. -/
def dropClosing (u : List Char) : List Char :=
  if ')' ∈ u.getLast? ∧ u.count '(' < u.count ')' then
    dropClosing (u.dropLast.rdropWhile isPunctuation)
  else
    u
termination_by u.length
decreasing_by
  rename_i h
  have hle := (List.rdropWhile_prefix isPunctuation u.dropLast).length_le
  have hne : u ≠ [] := by
    rintro rfl
    simp at h
  have hpos := List.length_pos_iff.2 hne
  rw [List.length_dropLast] at hle
  omega

theorem dropClosing_of_clean (h : IsClean u) : dropClosing u = u := by
  rw [dropClosing, if_neg]
  rintro ⟨hlast, hmore⟩
  exact absurd (h.balanced hlast) (Nat.not_le.2 hmore)

theorem dropClosing_concat (h : (u ++ [')']).count '(' < (u ++ [')']).count ')') :
    dropClosing (u ++ [')']) = dropClosing (u.rdropWhile isPunctuation) := by
  rw [dropClosing, if_pos ⟨by simp, h⟩, List.dropLast_concat]

/-- Punctuation first, then the rounds: what is left is the same. -/
theorem trim_eq_dropClosing (u : List Char) :
    trim u = dropClosing (u.rdropWhile isPunctuation) := by
  induction u using List.reverseRecOn with
  | nil => exact (dropClosing_of_clean isClean_nil).symm
  | append_singleton u c ih =>
      by_cases h : IsClean (u ++ [c])
      · have hc : isPunctuation c = false := (isClean_concat_iff.1 h).1
        rw [List.rdropWhile_concat_neg _ _ _ (by simp [hc]), dropClosing_of_clean h,
          trim_concat_of_clean h]
      · rw [trim_concat_of_not_clean h, ih]
        cases hc : isPunctuation c with
        | true => rw [List.rdropWhile_concat_pos _ _ _ hc]
        | false =>
            -- The parenthesis without a partner starts a round.
            rw [isClean_concat_iff, not_and, Classical.not_imp, Nat.not_le] at h
            obtain ⟨rfl, hmore⟩ := h hc
            rw [List.rdropWhile_concat_neg _ _ _ (by simp [hc]), dropClosing_concat hmore]

structure IsLongestClean (u p : List Char) : Prop where
  isPrefix : p <+: u
  isClean : IsClean p
  length_le : ∀ q, q <+: u → IsClean q → q.length ≤ p.length

theorem isLongestClean_trim (u : List Char) : IsLongestClean u (trim u) where
  isPrefix := trim_isPrefix u
  isClean := isClean_trim u
  length_le _ hinitial hclean := (prefix_trim_of_clean hinitial hclean).length_le

theorem isLongestClean_iff : IsLongestClean u p ↔ trim u = p := by
  constructor
  · intro h
    have hle := h.length_le (trim u) (trim_isPrefix u) (isClean_trim u)
    exact ((prefix_trim_of_clean h.isPrefix h.isClean).eq_of_length_le hle).symm
  · rintro rfl
    exact isLongestClean_trim u

/-- Trimming finds the longest clean beginning of a text, whether in single steps or in
rounds. It changes nothing when repeated, and takes away nothing but punctuation and closing
parentheses. -/
theorem trim_longestClean (u : List Char) :
    (∀ p, IsLongestClean u p ↔ trim u = p) ∧
    dropClosing (u.rdropWhile isPunctuation) = trim u ∧
    trim (trim u) = trim u ∧
    ∃ tail, u = trim u ++ tail ∧ ∀ c ∈ tail, c ∈ ['.', ',', ';', ':', '!', '?', ')'] := by
  refine ⟨fun _ => isLongestClean_iff, (trim_eq_dropClosing u).symm, trim_trim u, ?_⟩
  obtain ⟨tail, hu, htail⟩ := exists_trimmed_tail u
  refine ⟨tail, hu, fun c hc => ?_⟩
  have htrimmable := htail c hc
  rw [isTrimmable, Bool.or_eq_true, isPunctuation_iff, beq_iff_eq] at htrimmable
  simpa [or_assoc] using htrimmable

/-- Punctuation between parentheses goes with them, up to the one that has a partner. -/
theorem trim_longestClean_mixed :
    IsLongestClean "http://a.b/(c)).),!".toList "http://a.b/(c)".toList ∧
      dropClosing ("http://a.b/(c)).),!".toList.rdropWhile isPunctuation) =
        "http://a.b/(c)".toList := by
  obtain ⟨hlongest, hrounds, -, -⟩ := trim_longestClean "http://a.b/(c)).),!".toList
  have htrim : trim "http://a.b/(c)).),!".toList = "http://a.b/(c)".toList := by decide +kernel
  exact ⟨(hlongest _).2 htrim, hrounds.trans htrim⟩

end ChatTriage.Link
