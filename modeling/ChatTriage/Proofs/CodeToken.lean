import ChatTriage.Link
import ChatTriage.Proofs.Text
import Mathlib.Tactic.Tauto

/-!
# Tokens of code

What counts as a token of code in a text: its punctuation anywhere, a keyword only as a whole
word. A part of a text that is read on its own shows the tokens that the text has there, and
besides them the words that its ends cut down to a keyword. Where no keyword goes across the
seam between two parts, the tokens of the whole are those of the one and those of the other.
-/

namespace ChatTriage.Link

open Text Unicode

variable {front part back p q text w : List Char}

theorem isWord_of_mem_keyword (h : w ∈ codeKeywords) : ∀ c ∈ w, isWord c = true := by
  have hall : ∀ w ∈ codeKeywords, w.all isWord = true := by decide
  exact List.all_eq_true.1 (hall w h)

/-- A token of code stands behind `front`, which is read from the token on, and in front of
`back`. A keyword is a token only as a whole word. -/
inductive IsToken (front : List Char) : (token back : List Char) → Prop
  | punctuation {c : Char} {back : List Char} (h : isCodePunctuation c = true) :
      IsToken front [c] back
  | keyword {w back : List Char} (hw : w ∈ codeKeywords) (hfront : StopsAt isWord front)
      (hback : StopsAt isWord back) : IsToken front w back

/-- A token stands somewhere in a part of a text, where `front` is what stands before the
part, nearest first, and `back` what stands behind it. -/
def HasTokenIn (front part back : List Char) : Prop :=
  ∃ near token far, part = near ++ (token ++ far) ∧
    IsToken (near.reverse ++ front) token (far ++ back)

/-- In a part of a text a keyword stands that reaches an end of the part and is only a piece
of a longer word there. -/
def HasCutIn (front part back : List Char) : Prop :=
  ∃ near w far, part = near ++ (w ++ far) ∧ w ∈ codeKeywords ∧
    StopsAt isWord near.reverse ∧ StopsAt isWord far ∧
    (near = [] ∧ ¬ StopsAt isWord front ∨ far = [] ∧ ¬ StopsAt isWord back)

theorem hasCodeToken_iff : hasCodeToken text = true ↔ HasTokenIn [] text [] := by
  rw [hasCodeToken, Bool.or_eq_true, List.any_eq_true, List.any_eq_true]
  constructor
  · rintro (⟨c, hc, hpunctuation⟩ | ⟨w, hpiece, hw⟩)
    · obtain ⟨near, far, rfl⟩ := List.append_of_mem hc
      exact ⟨near, [c], far, rfl, .punctuation hpunctuation⟩
    · obtain ⟨front, back, rfl, -, hfront, hback⟩ := mem_pieces_iff.1 hpiece
      refine ⟨front.reverse, w, back, rfl, .keyword (List.contains_iff_mem.1 hw) ?_ ?_⟩
      · simpa using hfront
      · simpa using hback
  · rintro ⟨near, token, far, rfl, htoken⟩
    cases htoken with
    | punctuation h => exact .inl ⟨_, by simp, h⟩
    | keyword hw hfront hback =>
        rw [List.append_nil] at hfront hback
        refine .inr ⟨token, mem_pieces_iff.2 ?_, List.contains_iff_mem.2 hw⟩
        exact ⟨near.reverse, far, by rw [List.reverse_reverse], isWord_of_mem_keyword hw,
          hfront, hback⟩

/-- The tokens of a part on its own are those that it has in the text around it, and the
words that are cut at its ends. -/
theorem hasTokenIn_alone_iff (front part back : List Char) :
    HasTokenIn [] part [] ↔ HasTokenIn front part back ∨ HasCutIn front part back := by
  constructor
  · rintro ⟨near, token, far, rfl, htoken⟩
    cases htoken with
    | punctuation h => exact .inl ⟨near, _, far, rfl, .punctuation h⟩
    | keyword hw hfront hback =>
        rw [List.append_nil] at hfront hback
        by_cases hwhole : (near = [] → StopsAt isWord front) ∧ (far = [] → StopsAt isWord back)
        · refine .inl ⟨near, token, far, rfl, .keyword hw ?_ ?_⟩
          · exact stopsAt_append_iff.2 ⟨hfront, fun h => hwhole.1 (List.reverse_eq_nil_iff.1 h)⟩
          · exact stopsAt_append_iff.2 ⟨hback, hwhole.2⟩
        · exact .inr ⟨near, token, far, rfl, hw, hfront, hback, by tauto⟩
  · rintro (⟨near, token, far, rfl, htoken⟩ | ⟨near, w, far, rfl, hw, hfront, hback, -⟩)
    · refine ⟨near, token, far, rfl, ?_⟩
      rw [List.append_nil, List.append_nil]
      cases htoken with
      | punctuation h => exact .punctuation h
      | keyword hw hfront hback =>
          exact .keyword hw (stopsAt_append_iff.1 hfront).1 (stopsAt_append_iff.1 hback).1
    · refine ⟨near, w, far, rfl, ?_⟩
      rw [List.append_nil, List.append_nil]
      exact .keyword hw hfront hback

/-! ## Parts of a text -/

theorem HasTokenIn.append_right (h : HasTokenIn front p (q ++ back)) :
    HasTokenIn front (p ++ q) back := by
  obtain ⟨near, token, far, rfl, htoken⟩ := h
  refine ⟨near, token, far ++ q, by simp, ?_⟩
  rwa [List.append_assoc]

theorem HasTokenIn.append_left (h : HasTokenIn (p.reverse ++ front) q back) :
    HasTokenIn front (p ++ q) back := by
  obtain ⟨near, token, far, rfl, htoken⟩ := h
  refine ⟨p ++ near, token, far, by simp, ?_⟩
  rwa [List.reverse_append, List.append_assoc]

def HasKeywordAcross (p q back : List Char) : Prop :=
  ∃ near w₁ w₂ far, p = near ++ w₁ ∧ q = w₂ ++ far ∧ w₁ ≠ [] ∧ w₂ ≠ [] ∧
    w₁ ++ w₂ ∈ codeKeywords ∧ StopsAt isWord (far ++ back)

theorem hasKeywordAcross_of_isToken {near w₁ w₂ far : List Char} (hw₁ : w₁ ≠ [])
    (hw₂ : w₂ ≠ []) (h : IsToken front (w₁ ++ w₂) (far ++ back)) :
    HasKeywordAcross (near ++ w₁) (w₂ ++ far) back := by
  generalize htoken : w₁ ++ w₂ = token at h
  cases h with
  | punctuation =>
      have hlength := congrArg List.length htoken
      have hpos₁ := List.length_pos_iff.2 hw₁
      have hpos₂ := List.length_pos_iff.2 hw₂
      rw [List.length_append, List.length_singleton] at hlength
      omega
  | keyword hw hfront hback =>
      exact ⟨near, w₁, w₂, far, rfl, rfl, hw₁, hw₂, htoken ▸ hw, hback⟩

theorem hasTokenIn_append_iff (hacross : ¬ HasKeywordAcross p q back) :
    HasTokenIn front (p ++ q) back ↔
      HasTokenIn front p (q ++ back) ∨ HasTokenIn (p.reverse ++ front) q back := by
  constructor
  · rintro ⟨near, token, far, hsplit, htoken⟩
    rcases List.append_eq_append_iff.1 hsplit with ⟨near', rfl, rfl⟩ | ⟨w₁, rfl, hrest⟩
    · -- The token stands behind the seam.
      refine .inr ⟨near', token, far, rfl, ?_⟩
      rwa [List.reverse_append, List.append_assoc] at htoken
    · rcases List.append_eq_append_iff.1 hrest with ⟨far', rfl, rfl⟩ | ⟨w₂, rfl, rfl⟩
      · -- The token stands in front of the seam.
        refine .inl ⟨near, token, far', rfl, ?_⟩
        rwa [List.append_assoc] at htoken
      · -- The seam goes through the token or touches it.
        by_cases hw₁ : w₁ = []
        · subst hw₁
          refine .inr ⟨[], w₂, far, rfl, ?_⟩
          simpa using htoken
        · by_cases hw₂ : w₂ = []
          · subst hw₂
            refine .inl ⟨near, w₁, [], by simp, ?_⟩
            simpa using htoken
          · exact absurd (hasKeywordAcross_of_isToken hw₁ hw₂ htoken) hacross
  · rintro (h | h)
    · exact h.append_right
    · exact h.append_left

theorem not_hasKeywordAcross_of_stopsAt (h : StopsAt isWord q) : ¬ HasKeywordAcross p q back := by
  rintro ⟨near, w₁, w₂, far, -, rfl, -, hw₂, hkeyword, -⟩
  obtain ⟨c, w₂, rfl⟩ := List.exists_cons_of_ne_nil hw₂
  have hc : isWord c = true := isWord_of_mem_keyword hkeyword c (by simp)
  rw [h c rfl] at hc
  cases hc

end ChatTriage.Link
