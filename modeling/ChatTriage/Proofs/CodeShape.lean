import ChatTriage.CodeShape
import ChatTriage.Proofs.Text

/-!
# The shape of code in a longer text

Every sign of code that a text shows is still there when whole lines are put in front of
the text and anything is put behind it.
-/

namespace ChatTriage.CodeShape

open Text

theorem isIndented_nil : isIndented [] = false := by
  decide

theorem isIndented_iff {line : List Char} :
    isIndented line = true ↔ [' ', ' '] <+: line ∨ ['\t'] <+: line := by
  rw [isIndented, Bool.or_eq_true, List.isPrefixOf_iff_prefix, List.isPrefixOf_iff_prefix]
  rfl

theorem isIndented_of_prefix {short long : List Char} (hpre : short <+: long)
    (h : isIndented short = true) : isIndented long = true :=
  isIndented_iff.2 ((isIndented_iff.1 h).imp (·.trans hpre) (·.trans hpre))

theorem isIndented_dropCarriageReturn (line : List Char) :
    isIndented (dropCarriageReturn line) = isIndented line := by
  unfold dropCarriageReturn
  split_ifs with hlast
  · obtain ⟨front, rfl⟩ := List.getLast?_eq_some_iff.1 (beq_iff_eq.1 hlast)
    rw [List.dropLast_concat]
    match front with
    | [] | [_] | _ :: _ :: _ => simp [isIndented, List.isPrefixOf]
  · rfl

theorem hasIndentedLine_eq (text : List Char) :
    hasIndentedLine text = (pieces (· == '\n') text).any isIndented := by
  obtain ⟨front, last, -, -, htext, -, -⟩ := pieces_append (· == '\n') text []
  rw [hasIndentedLine, lines_eq htext, htext, List.any_append, List.any_append, List.any_map]
  congr 1
  · exact List.any_congr rfl isIndented_dropCarriageReturn
  · cases last <;> simp [isIndented_nil]

/-! ## Text around a text -/

def IsWholeLines (before : List Char) : Prop :=
  before = [] ∨ ∃ front, before = front ++ ['\n']

variable {before text : List Char} (after : List Char)

theorem pieces_subset_of_isWholeLines (h : IsWholeLines before) (text : List Char) :
    pieces (· == '\n') text ⊆ pieces (· == '\n') (before ++ text) := by
  rcases h with rfl | ⟨front, rfl⟩
  · exact List.Subset.refl _
  · rw [List.append_assoc, List.singleton_append,
      pieces_append_separator (· == '\n') front text (beq_self_eq_true '\n')]
    exact List.subset_append_right _ _

theorem hasIndentedLine_append (hbefore : IsWholeLines before)
    (h : hasIndentedLine text = true) : hasIndentedLine (before ++ (text ++ after)) = true := by
  rw [hasIndentedLine_eq, List.any_eq_true] at h ⊢
  obtain ⟨piece, hpiece, hindented⟩ := h
  obtain ⟨longer, hlonger, hpre⟩ := exists_piece_of_prefix hpiece after
  exact ⟨longer, pieces_subset_of_isWholeLines hbefore _ hlonger,
    isIndented_of_prefix hpre hindented⟩

theorem length_pieces_le_append (before text after : List Char) :
    (pieces (· == '\n') text).length ≤
      (pieces (· == '\n') (before ++ (text ++ after))).length := by
  have hbefore := length_pieces_append (· == '\n') before (text ++ after)
  have hafter := length_pieces_append (· == '\n') text after
  obtain ⟨_, _, hb⟩ := exists_first_piece (· == '\n') before
  obtain ⟨_, _, ha⟩ := exists_first_piece (· == '\n') after
  rw [hb, List.length_cons] at hbefore
  rw [ha, List.length_cons] at hafter
  omega

theorem contains_append (before : List Char) {c : Char} (h : text.contains c = true) :
    (before ++ (text ++ after)).contains c = true := by
  rw [List.contains_iff_mem] at h ⊢
  exact List.mem_append_right _ (List.mem_append_left _ h)

theorem isMultilineAssignment_append (before : List Char)
    (h : isMultilineAssignment text = true) :
    isMultilineAssignment (before ++ (text ++ after)) = true := by
  rw [isMultilineAssignment, Bool.and_eq_true, decide_eq_true_eq, Bool.or_eq_true] at h ⊢
  obtain ⟨hlines, hsign⟩ := h
  exact ⟨Nat.lt_of_lt_of_le hlines (length_pieces_le_append before text after),
    hsign.imp (contains_append after before) (contains_append after before)⟩

theorem occurs_append (before : List Char) {word : List Char}
    (h : occurs word text = true) : occurs word (before ++ (text ++ after)) = true := by
  rw [occurs_iff] at h ⊢
  exact h.trans ⟨before, after, List.append_assoc before text after⟩

/-- A text that is worth a search stays so among other text, if it starts a line there. -/
theorem looksLikeCode_append (hbefore : IsWholeLines before)
    (h : looksLikeCode text = true) : looksLikeCode (before ++ (text ++ after)) = true := by
  simp only [looksLikeCode, Bool.or_eq_true, Bool.and_eq_true] at h ⊢
  rcases h with ((⟨hopening, hclosing⟩ | hindented) | hassigned) | hword
  · exact .inl (.inl (.inl
      ⟨contains_append after before hopening, contains_append after before hclosing⟩))
  · exact .inl (.inl (.inr (hasIndentedLine_append after hbefore hindented)))
  · exact .inl (.inr (isMultilineAssignment_append after before hassigned))
  · obtain ⟨word, hmem, hoccurs⟩ := List.any_eq_true.1 hword
    exact .inr (List.any_eq_true.2 ⟨word, hmem, occurs_append after before hoccurs⟩)

def indents : List (List Char) :=
  [[' ', ' '], ['\t']]

theorem isIndented_iff_exists {line : List Char} :
    isIndented line = true ↔ ∃ indent ∈ indents, indent <+: line := by
  rw [isIndented_iff]
  simp [indents]

theorem hasIndentedLine_iff :
    hasIndentedLine text = true ↔ ∃ before indent after,
      IsWholeLines before ∧ indent ∈ indents ∧ text = before ++ (indent ++ after) := by
  constructor
  · intro h
    rw [hasIndentedLine_eq, List.any_eq_true] at h
    obtain ⟨line, hline, hindented⟩ := h
    obtain ⟨indent, hindent, rest, rfl⟩ := isIndented_iff_exists.1 hindented
    obtain ⟨first, later, hpieces⟩ := exists_first_piece (· == '\n') text
    obtain ⟨hfirst, hlater⟩ := pieces_stand hpieces
    rw [hpieces] at hline
    rcases List.mem_cons.1 hline with rfl | hline
    · obtain ⟨after, rfl⟩ := hfirst
      exact ⟨[], indent, rest ++ after, .inl rfl, hindent, List.append_assoc _ _ _⟩
    · obtain ⟨front, c, after, hc, rfl⟩ := hlater _ hline
      obtain rfl : c = '\n' := beq_iff_eq.1 hc
      exact ⟨front ++ ['\n'], indent, rest ++ after, .inr ⟨front, rfl⟩, hindent, by simp⟩
  · rintro ⟨before, indent, after, hbefore, hindent, rfl⟩
    have halone : ∀ indent ∈ indents, hasIndentedLine indent = true := by decide
    exact hasIndentedLine_append after hbefore (halone indent hindent)

theorem isMultilineAssignment_iff :
    isMultilineAssignment text = true ↔
      3 ≤ text.count '\n' ∧ ('=' ∈ text ∨ ':' ∈ text) := by
  rw [isMultilineAssignment, Bool.and_eq_true, decide_eq_true_eq, Bool.or_eq_true,
    List.contains_iff_mem, List.contains_iff_mem, length_pieces]
  apply and_congr_left'
  rw [Nat.lt_succ_iff]
  rfl

/-- What makes a text worth a search, in terms of its characters. -/
inductive HasSign (text : List Char) : Prop
  | braces (hopening : '{' ∈ text) (hclosing : '}' ∈ text)
  | indentedLine {before indent after : List Char} (hbefore : IsWholeLines before)
      (hindent : indent ∈ indents) (htext : text = before ++ (indent ++ after))
  | assignment (hlines : 3 ≤ text.count '\n') (hsign : '=' ∈ text ∨ ':' ∈ text)
  | fragment {word : List Char} (hword : word ∈ keywordFragments) (hoccurs : word <:+: text)

theorem looksLikeCode_iff : looksLikeCode text = true ↔ HasSign text := by
  simp only [looksLikeCode, Bool.or_eq_true, Bool.and_eq_true, List.contains_iff_mem,
    hasIndentedLine_iff, isMultilineAssignment_iff, List.any_eq_true, occurs_iff]
  constructor
  · rintro (((⟨hopening, hclosing⟩ | ⟨_, _, _, hbefore, hindent, htext⟩) | ⟨hlines, hsign⟩) |
      ⟨_, hword, hoccurs⟩)
    · exact .braces hopening hclosing
    · exact .indentedLine hbefore hindent htext
    · exact .assignment hlines hsign
    · exact .fragment hword hoccurs
  · rintro (⟨hopening, hclosing⟩ | ⟨hbefore, hindent, htext⟩ | ⟨hlines, hsign⟩ |
      ⟨hword, hoccurs⟩)
    · exact .inl (.inl (.inl ⟨hopening, hclosing⟩))
    · exact .inl (.inl (.inr ⟨_, _, _, hbefore, hindent, htext⟩))
    · exact .inl (.inr ⟨hlines, hsign⟩)
    · exact .inr ⟨_, hword, hoccurs⟩

instance (text : List Char) : Decidable (HasSign text) :=
  decidable_of_iff _ looksLikeCode_iff

end ChatTriage.CodeShape
