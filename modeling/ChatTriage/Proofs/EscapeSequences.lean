import ChatTriage.Report.StyledText
import Mathlib.Data.List.Basic

/-!
# Escape sequences

Styled text whose stretches are clean, that is without escape characters and, where they
have attributes, without line feeds: what the coloured form of it has more than the plain
one are escape sequences, and each that starts attributes has its end in the same line.
-/

namespace ChatTriage

/-- The text is part of one line and has no escape character. -/
def Text.IsPlainLine (text : List Char) : Prop :=
  '\x1b' ∉ text ∧ '\n' ∉ text

instance (text : List Char) : Decidable (Text.IsPlainLine text) :=
  inferInstanceAs (Decidable ('\x1b' ∉ text ∧ '\n' ∉ text))

open Text

/-- Text with attributes belongs to one line, and no text has an escape character. -/
def TextSpan.IsClean (s : TextSpan) : Prop :=
  '\x1b' ∉ s.text ∧ (s.attributes ≠ [] → '\n' ∉ s.text)

def StyledText.IsClean (t : StyledText) : Prop :=
  ∀ s ∈ t, s.IsClean

namespace StyledText

variable {s t : StyledText}

@[simp] theorem isClean_nil : IsClean [] := by
  simp [IsClean]

@[simp] theorem isClean_append : IsClean (s ++ t) ↔ s.IsClean ∧ t.IsClean :=
  List.forall_mem_append

theorem isClean_flatMap {α : Type} {f : α → StyledText} {xs : List α}
    (h : ∀ x ∈ xs, (f x).IsClean) : IsClean (xs.flatMap f) := by
  intro s hs
  obtain ⟨x, hx, hs⟩ := List.mem_flatMap.1 hs
  exact h x hx s hs

theorem isClean_styled {text : String} (h : IsPlainLine text.toList)
    (attributes : List TextAttribute) : (styled attributes text).IsClean := by
  intro s hs
  obtain rfl := List.mem_singleton.1 hs
  exact ⟨h.1, fun _ => h.2⟩

theorem isClean_unstyled {text : String} (h : '\x1b' ∉ text.toList) :
    (unstyled text).IsClean := by
  intro s hs
  obtain rfl := List.mem_singleton.1 hs
  exact ⟨h, fun hnone => absurd rfl hnone⟩

end StyledText

theorem forall_mem_intercalate {p : Char → Prop} {separator : List Char}
    {parts : List (List Char)} (hseparator : ∀ c ∈ separator, p c)
    (hparts : ∀ part ∈ parts, ∀ c ∈ part, p c) :
    ∀ c ∈ List.intercalate separator parts, p c := by
  induction parts with
  | nil => simp
  | cons part parts ih =>
      obtain ⟨hpart, hparts⟩ := List.forall_mem_cons.1 hparts
      cases parts with
      | nil => simpa using hpart
      | cons next parts =>
          rw [List.intercalate_cons_cons, List.forall_mem_append, List.forall_mem_append]
          exact ⟨⟨hpart, hseparator⟩, ih hparts⟩

namespace TextSpan

variable {s : TextSpan} {text : List Char}

def isCodeChar (c : Char) : Bool :=
  c.isDigit || c == ';'

theorem ne_of_isCodeChar {c d : Char} (hc : isCodeChar c = true) (hd : isCodeChar d = false) :
    c ≠ d := by
  rintro rfl
  rw [hd] at hc
  cases hc

theorem isCodeChar_of_mem_code {a : TextAttribute} {c : Char} (h : c ∈ a.code) :
    isCodeChar c = true := by
  have hall : a.code.all isCodeChar = true := by cases a <;> decide
  exact List.all_eq_true.1 hall c h

theorem exists_codes (s : TextSpan) : ∃ codes,
    s.opening = '\x1b' :: '[' :: (codes ++ ['m']) ∧ ∀ c ∈ codes, isCodeChar c = true := by
  refine ⟨List.intercalate [';'] (s.attributes.map TextAttribute.code), rfl, ?_⟩
  apply forall_mem_intercalate
  · intro c hc
    obtain rfl := List.mem_singleton.1 hc
    decide
  · rw [List.forall_mem_map]
    exact fun a _ c => isCodeChar_of_mem_code

theorem reopen_of_not_mem (h : '\x1b' ∉ text) (opening : List Char) :
    reopen opening text = text := by
  induction text with
  | nil => rfl
  | cons c cs ih =>
      rw [List.mem_cons, not_or] at h
      rw [reopen, ih h.2]
      rintro cs rfl
      exact absurd rfl h.1

theorem colored_of_unstyled (h : s.attributes = []) : s.colored = s.text := by
  simp [colored, h]

theorem colored_of_styled (hs : s.IsClean) (h : s.attributes ≠ []) :
    s.colored = s.opening ++ s.text ++ closing := by
  rw [colored, if_neg (by simpa using h), reopen_of_not_mem hs.1]

end TextSpan

open TextSpan

/-! ## Deleting the sequences -/

namespace StyledText

variable {text rest codes : List Char} {c : Char}

theorem withoutEscapes_cons (hc : c ≠ '\x1b') (inside : Bool) (cs : List Char) :
    withoutEscapes inside (c :: cs) =
      if inside then withoutEscapes (c != 'm') cs else c :: withoutEscapes false cs := by
  rw [withoutEscapes]
  rintro cs rfl
  exact absurd rfl hc

theorem withoutEscapes_append (h : '\x1b' ∉ text) (rest : List Char) :
    withoutEscapes false (text ++ rest) = text ++ withoutEscapes false rest := by
  induction text with
  | nil => rfl
  | cons c cs ih =>
      rw [List.mem_cons, not_or] at h
      rw [List.cons_append, withoutEscapes_cons (Ne.symm h.1), if_neg Bool.false_ne_true,
        ih h.2, List.cons_append]

theorem withoutEscapes_codes (h : ∀ c ∈ codes, isCodeChar c = true) (rest : List Char) :
    withoutEscapes true (codes ++ 'm' :: rest) = withoutEscapes false rest := by
  induction codes with
  | nil => rw [List.nil_append, withoutEscapes_cons (by decide), if_pos rfl]; rfl
  | cons c cs ih =>
      obtain ⟨hc, hcs⟩ := List.forall_mem_cons.1 h
      have hm : (c != 'm') = true := bne_iff_ne.2 (ne_of_isCodeChar hc (by decide))
      rw [List.cons_append, withoutEscapes_cons (ne_of_isCodeChar hc (by decide)), if_pos rfl,
        hm, ih hcs]

theorem withoutEscapes_sequence (h : ∀ c ∈ codes, isCodeChar c = true) (rest : List Char) :
    withoutEscapes false ('\x1b' :: '[' :: (codes ++ 'm' :: rest)) =
      withoutEscapes false rest := by
  rw [withoutEscapes, withoutEscapes_codes h]

theorem withoutEscapes_closing (rest : List Char) :
    withoutEscapes false (closing ++ rest) = withoutEscapes false rest := by
  have hcodes : ∀ c ∈ ['0'], isCodeChar c = true := List.all_eq_true.1 (by decide)
  exact withoutEscapes_sequence hcodes rest

theorem withoutEscapes_span {s : TextSpan} (hs : s.IsClean) (rest : List Char) :
    withoutEscapes false (s.colored ++ rest) = s.text ++ withoutEscapes false rest := by
  by_cases h : s.attributes = []
  · rw [colored_of_unstyled h, withoutEscapes_append hs.1]
  · obtain ⟨codes, hopening, hcodes⟩ := exists_codes s
    calc withoutEscapes false (s.colored ++ rest)
      _ = withoutEscapes false
            ('\x1b' :: '[' :: (codes ++ 'm' :: (s.text ++ (closing ++ rest)))) := by
          rw [colored_of_styled hs h, hopening]
          simp
      _ = s.text ++ withoutEscapes false rest := by
          rw [withoutEscapes_sequence hcodes, withoutEscapes_append hs.1,
            withoutEscapes_closing]

theorem withoutEscapes_colored {t : StyledText} (h : t.IsClean) :
    withoutEscapes false t.colored = t.plain := by
  induction t with
  | nil => rfl
  | cons s t ih =>
      obtain ⟨hs, ht⟩ := List.forall_mem_cons.1 h
      rw [colored, List.flatMap_cons, withoutEscapes_span hs, plain, List.flatMap_cons]
      exact congrArg (s.text ++ ·) (ih ht)

end StyledText

/-- Every escape character of the text begins a sequence that ends all attributes, or else
one that starts some, and these are ended in the same line with no other sequence in
between. -/
def Text.EndsAttributesInLine (text : List Char) : Prop :=
  ∀ before after, text = before ++ '\x1b' :: after →
    closing <+: '\x1b' :: after ∨
      ∃ codes shown rest, after = '[' :: (codes ++ 'm' :: (shown ++ (closing ++ rest))) ∧
        (∀ c ∈ codes, isCodeChar c = true) ∧ IsPlainLine shown

namespace Text

variable {s t : List Char}

theorem endsAttributesInLine_of_not_mem (h : '\x1b' ∉ t) : EndsAttributesInLine t := by
  rintro before after rfl
  exact absurd (by simp) h

theorem EndsAttributesInLine.append (hs : EndsAttributesInLine s)
    (ht : EndsAttributesInLine t) : EndsAttributesInLine (s ++ t) := by
  intro before after h
  rcases List.append_eq_append_iff.1 h with ⟨inside, -, htext⟩ | ⟨tail, hfront, hback⟩
  · exact ht inside after htext
  · cases tail with
    | nil => exact ht [] after hback.symm
    | cons c tail =>
        obtain ⟨rfl, rfl⟩ := List.cons.inj hback
        -- The sequence begins in the first text, and that holds its end.
        rcases hs before tail hfront with hclosing | ⟨codes, shown, rest, rfl, hcodes, hshown⟩
        · exact .inl (hclosing.trans (List.prefix_append _ t))
        · exact .inr ⟨codes, shown, rest ++ t, by simp, hcodes, hshown⟩

end Text

theorem TextSpan.endsAttributesInLine_colored {s : TextSpan} (hs : s.IsClean) :
    EndsAttributesInLine s.colored := by
  by_cases h : s.attributes = []
  · rw [colored_of_unstyled h]
    exact endsAttributesInLine_of_not_mem hs.1
  · obtain ⟨codes, hopening, hcodes⟩ := exists_codes s
    have hcolored : s.colored = '\x1b' :: '[' :: (codes ++ 'm' :: (s.text ++ closing)) := by
      rw [colored_of_styled hs h, hopening]
      simp
    rw [hcolored]
    intro before after hsplit
    cases before with
    | nil =>
        obtain ⟨-, rfl⟩ := List.cons.inj hsplit
        exact .inr ⟨codes, s.text, [], by simp, hcodes, hs.1, hs.2 h⟩
    | cons c before =>
        -- Behind the first character only the sequence at the end has an escape character.
        have hinside : '\x1b' ∉ '[' :: (codes ++ 'm' :: s.text) := by
          have hnot : '\x1b' ∉ codes := fun hmem => ne_of_isCodeChar (hcodes _ hmem) (by decide) rfl
          simp [hnot, hs.1]
        have hlast : ('[' :: (codes ++ 'm' :: s.text)) ++ '\x1b' :: "[0m".toList =
            before ++ '\x1b' :: after := by
          obtain ⟨-, hrest⟩ := List.cons.inj hsplit
          calc ('[' :: (codes ++ 'm' :: s.text)) ++ '\x1b' :: "[0m".toList
            _ = '[' :: (codes ++ 'm' :: (s.text ++ closing)) := by simp [closing]
            _ = before ++ '\x1b' :: after := hrest
        obtain ⟨-, -, rfl⟩ :=
          (List.append_cons_inj_of_notMem hinside (by decide)).1 hlast
        exact .inl (List.prefix_refl _)

theorem StyledText.endsAttributesInLine_colored {t : StyledText} (h : t.IsClean) :
    EndsAttributesInLine t.colored := by
  induction t with
  | nil => exact endsAttributesInLine_of_not_mem List.not_mem_nil
  | cons s t ih =>
      obtain ⟨hs, ht⟩ := List.forall_mem_cons.1 h
      rw [colored, List.flatMap_cons]
      exact (TextSpan.endsAttributesInLine_colored hs).append (ih ht)

end ChatTriage
