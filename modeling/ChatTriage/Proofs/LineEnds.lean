import ChatTriage.Proofs.CodeShape

/-!
# Line ends

A line may end in a line feed or in a carriage return and a line feed. Which of the two a
text uses makes no difference to its lines, nor to whether it is worth a search for
signatures.
-/

namespace ChatTriage

namespace Text

variable {text word : List Char} {c : Char}

def withCarriageReturns (text : List Char) : List Char :=
  text.flatMap fun c => if c = '\n' then ['\r', '\n'] else [c]

theorem withCarriageReturns_append (before after : List Char) :
    withCarriageReturns (before ++ after) =
      withCarriageReturns before ++ withCarriageReturns after :=
  List.flatMap_append

theorem withCarriageReturns_cons_feed (cs : List Char) :
    withCarriageReturns ('\n' :: cs) = '\r' :: '\n' :: withCarriageReturns cs :=
  rfl

theorem withCarriageReturns_cons_inside (h : c ≠ '\n') (cs : List Char) :
    withCarriageReturns (c :: cs) = c :: withCarriageReturns cs := by
  rw [withCarriageReturns, List.flatMap_cons, if_neg h]
  rfl

theorem withCarriageReturns_of_not_mem (h : '\n' ∉ text) :
    withCarriageReturns text = text := by
  induction text with
  | nil => rfl
  | cons c cs ih =>
      rw [List.mem_cons, not_or] at h
      rw [withCarriageReturns_cons_inside (Ne.symm h.1), ih h.2]

theorem filter_withCarriageReturns (h : '\r' ∉ text) :
    (withCarriageReturns text).filter (· != '\r') = text := by
  induction text with
  | nil => rfl
  | cons c cs ih =>
      rw [List.mem_cons, not_or] at h
      by_cases hfeed : c = '\n'
      · subst hfeed
        rw [withCarriageReturns_cons_feed, List.filter_cons_of_neg (by decide),
          List.filter_cons_of_pos (by decide), ih h.2]
      · have hkeep : (c != '\r') = true := bne_iff_ne.2 (Ne.symm h.1)
        rw [withCarriageReturns_cons_inside hfeed,
          List.filter_cons_of_pos (p := (· != '\r')) hkeep, ih h.2]

theorem count_withCarriageReturns (h : '\r' ∉ text) (hc : c ≠ '\r') :
    (withCarriageReturns text).count c = text.count c := by
  calc (withCarriageReturns text).count c
    _ = ((withCarriageReturns text).filter (· != '\r')).count c :=
        (List.count_filter (p := (· != '\r')) (bne_iff_ne.2 hc)).symm
    _ = text.count c := by rw [filter_withCarriageReturns h]

theorem contains_withCarriageReturns (h : '\r' ∉ text) (hc : c ≠ '\r') :
    (withCarriageReturns text).contains c = text.contains c := by
  rw [Bool.eq_iff_iff, List.contains_iff_mem, List.contains_iff_mem, ← List.count_pos_iff,
    ← List.count_pos_iff, count_withCarriageReturns h hc]

theorem infix_withCarriageReturns_iff (h : '\r' ∉ text) (hreturn : '\r' ∉ word)
    (hfeed : '\n' ∉ word) : word <:+: withCarriageReturns text ↔ word <:+: text := by
  constructor
  · intro hoccurs
    have hword : word.filter (· != '\r') = word := by
      apply List.filter_eq_self.2
      intro c hc
      rw [bne_iff_ne]
      rintro rfl
      exact hreturn hc
    have hfiltered := hoccurs.filter (· != '\r')
    rwa [hword, filter_withCarriageReturns h] at hfiltered
  · rintro ⟨before, after, rfl⟩
    refine ⟨withCarriageReturns before, withCarriageReturns after, ?_⟩
    rw [withCarriageReturns_append, withCarriageReturns_append,
      withCarriageReturns_of_not_mem hfeed]

/-! ## Lines -/

theorem withCarriageReturns_flatMap_feed {ended : List (List Char)} {last : List Char}
    (hended : ∀ line ∈ ended, '\n' ∉ line) (hlast : '\n' ∉ last) :
    withCarriageReturns (ended.flatMap (· ++ ['\n']) ++ last) =
      (ended.map (· ++ ['\r'])).flatMap (· ++ ['\n']) ++ last := by
  rw [withCarriageReturns_append, withCarriageReturns_of_not_mem hlast]
  congr 1
  induction ended with
  | nil => rfl
  | cons line ended ih =>
      obtain ⟨hline, hended⟩ := List.forall_mem_cons.1 hended
      rw [List.flatMap_cons, withCarriageReturns_append, withCarriageReturns_append,
        withCarriageReturns_of_not_mem hline, ih hended, List.map_cons, List.flatMap_cons]
      simp [withCarriageReturns]

theorem lines_withCarriageReturns (h : '\r' ∉ text) :
    lines (withCarriageReturns text) = lines text := by
  obtain ⟨ended, last, rfl, hended, hlast⟩ := exists_lines text
  have hreturn : ∀ line ∈ ended, '\r' ∉ line ∧ '\n' ∉ line := by
    intro line hline
    refine ⟨fun hmem => h ?_, hended line hline⟩
    apply List.mem_append_left
    exact List.mem_flatMap.2 ⟨line, hline, List.mem_append_left _ hmem⟩
  have hlonger : ∀ line ∈ ended.map (· ++ ['\r']), '\n' ∉ line := by
    rw [List.forall_mem_map]
    intro line hline
    simpa using hended line hline
  rw [withCarriageReturns_flatMap_feed hended hlast, lines_flatMap_feed hreturn hlast,
    lines_eq (pieces_flatMap_feed hlonger hlast), List.map_map]
  congr 1
  calc ended.map (dropCarriageReturn ∘ (· ++ ['\r']))
    _ = ended.map id := List.map_congr_left fun line _ => dropCarriageReturn_concat line
    _ = ended := List.map_id ended

end Text

namespace CodeShape

open Text

variable {text : List Char}

theorem hasIndentedLine_withCarriageReturns (h : '\r' ∉ text) :
    hasIndentedLine (withCarriageReturns text) = hasIndentedLine text := by
  rw [hasIndentedLine, lines_withCarriageReturns h, hasIndentedLine]

theorem isMultilineAssignment_withCarriageReturns (h : '\r' ∉ text) :
    isMultilineAssignment (withCarriageReturns text) = isMultilineAssignment text := by
  have hfeeds : (withCarriageReturns text).countP (· == '\n') = text.countP (· == '\n') :=
    count_withCarriageReturns h (by decide)
  rw [isMultilineAssignment, isMultilineAssignment, length_pieces, length_pieces, hfeeds,
    contains_withCarriageReturns h (by decide), contains_withCarriageReturns h (by decide)]

theorem any_occurs_withCarriageReturns (h : '\r' ∉ text) :
    keywordFragments.any (occurs · (withCarriageReturns text)) =
      keywordFragments.any (occurs · text) := by
  have honeLine : ∀ word ∈ keywordFragments, '\r' ∉ word ∧ '\n' ∉ word := by decide
  rw [Bool.eq_iff_iff, List.any_eq_true, List.any_eq_true]
  apply exists_congr
  intro word
  apply and_congr_right
  intro hword
  obtain ⟨hreturn, hfeed⟩ := honeLine word hword
  rw [occurs_iff, occurs_iff, infix_withCarriageReturns_iff h hreturn hfeed]

theorem looksLikeCode_withCarriageReturns (h : '\r' ∉ text) :
    looksLikeCode (withCarriageReturns text) = looksLikeCode text := by
  rw [looksLikeCode, looksLikeCode, contains_withCarriageReturns h (by decide),
    contains_withCarriageReturns h (by decide), hasIndentedLine_withCarriageReturns h,
    isMultilineAssignment_withCarriageReturns h, any_occurs_withCarriageReturns h]

/-- To write more around a text that is worth a search, on lines before it and anywhere
behind it, leaves it worth one, and so does another way to end its lines. -/
theorem looksLikeCode_robust :
    (∀ before text after, IsWholeLines before → looksLikeCode text = true →
      looksLikeCode (before ++ text ++ after) = true) ∧
    (∀ text, '\r' ∉ text →
      looksLikeCode (withCarriageReturns text) = looksLikeCode text) := by
  refine ⟨fun before text after hbefore h => ?_, fun text => looksLikeCode_withCarriageReturns⟩
  rw [List.append_assoc]
  exact looksLikeCode_append after hbefore h

/-- The indented line is the last one of the text and goes on behind it. The other text
has no line that is indented, and its colon is on the last of four lines. -/
theorem looksLikeCode_robust_fourLines :
    looksLikeCode ("as in\n".toList ++ "if x\n\ty".toList ++ " etc.".toList) = true ∧
      looksLikeCode (withCarriageReturns "a\nb\nc\nd: 1".toList) = true := by
  obtain ⟨haround, hends⟩ := looksLikeCode_robust
  have hlines : IsWholeLines "as in\n".toList := .inr ⟨"as in".toList, by decide⟩
  refine ⟨haround _ _ _ hlines (by decide), ?_⟩
  rw [hends _ (by decide)]
  decide

end CodeShape

end ChatTriage
