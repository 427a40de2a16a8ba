import ChatTriage.Proofs.CodeToken
import ChatTriage.Proofs.LinkExtent
import ChatTriage.Proofs.LinkTrimming

/-!
# Links in the midst of code

A link is taken for a part of code when it is glued to what stands before it and the window
around it shows a token of code. The tokens that count are those of the message among the
nearest characters on either side, and besides these two kinds that are no tokens around the
link: those inside the link, and words that an end of the window cuts down to a keyword. A
link right behind a quote is glued to nothing, so no token around it counts.
-/

namespace ChatTriage

open Unicode

namespace Unicode

def otherBlanks : List Nat :=
  [0x85, 0xA0, 0x1680, 0x2000, 0x2001, 0x2002, 0x2003, 0x2004, 0x2005, 0x2006, 0x2007, 0x2008,
    0x2009, 0x200A, 0x2028, 0x2029, 0x202F, 0x205F, 0x3000]

theorem mem_otherBlanks {c : Char} (hc : ¬ c.toNat < 0x80)
    (h : whiteSpace.contains c = true) : c.toNat ∈ otherBlanks := by
  simp [CodePointSet.contains, CodePointSet.rank, CodePointSet.rankBetween, whiteSpace] at h
  -- One case for each stretch between two neighbouring boundaries.
  split_ifs at h <;> simp [otherBlanks] at h ⊢ <;> omega

theorem isWord_of_isBlank {c : Char} (h : isBlank c = true) : isWord c = false := by
  have hascii : ∀ n < 0x80, isBlank (Char.ofNat n) = true → isWord (Char.ofNat n) = false := by
    decide
  have hothers : ∀ n ∈ otherBlanks, isWord (Char.ofNat n) = false := by decide +kernel
  by_cases hc : c.toNat < 0x80
  · rw [← Char.ofNat_toNat c] at h ⊢
    exact hascii c.toNat hc h
  · rw [isBlank, if_neg hc] at h
    rw [← Char.ofNat_toNat c]
    exact hothers c.toNat (mem_otherBlanks hc h)

end Unicode

namespace Link

open Text

variable {back before middle after p s text : List Char} {c : Char} {o : LinkOccurrence}

theorem takeWhile_scheme (hs : s ∈ schemes) (rest : List Char) :
    (s ++ rest).takeWhile isWord ∈ ["http".toList, "https".toList] := by
  simp only [schemes, List.mem_cons, List.not_mem_nil, or_false] at hs
  rcases hs with rfl | rfl
  · exact List.mem_cons_self
  · exact List.mem_cons_of_mem _ List.mem_cons_self

theorem not_hasKeywordAcross_scheme (hs : s ∈ schemes) (rest : List Char) :
    ¬ HasKeywordAcross p (s ++ rest) back := by
  rintro ⟨near, w₁, w₂, far, -, hsplit, -, -, hkeyword, hstop⟩
  have hrun : (s ++ (rest ++ back)).takeWhile isWord = w₂ := by
    refine (longestRun_iff.2 ⟨?_, fun c hc => ?_, hstop⟩).1
    · rw [← List.append_assoc, hsplit, List.append_assoc]
    · exact isWord_of_mem_keyword hkeyword c (List.mem_append_right w₁ hc)
  have hnone : ∀ w ∈ codeKeywords, ∀ h ∈ ["http".toList, "https".toList], ¬ h <:+ w := by decide
  exact hnone _ hkeyword _ (hrun ▸ takeWhile_scheme hs _) (List.suffix_append w₁ w₂)

theorem isWord_of_isTrimmable (h : isTrimmable c = true) : isWord c = false := by
  have hall : [')', '.', ',', ';', ':', '!', '?'].all (!isWord ·) = true := by decide
  rw [isTrimmable, Bool.or_eq_true, isPunctuation_iff, beq_iff_eq] at h
  rw [← Bool.not_eq_true']
  exact List.all_eq_true.1 hall c (List.mem_cons.2 h.symm)

theorem isWord_of_isSeparator (h : isSeparator c = true) : isWord c = false := by
  have hall : ['"', '\'', '<', '>', '\x60'].all (!isWord ·) = true := by decide
  rcases isSeparator_iff.1 h with hblank | hother
  · exact isWord_of_isBlank ((isBlank_eq_contains c).trans hblank)
  · rw [← Bool.not_eq_true']
    exact List.all_eq_true.1 hall c hother

/-- What stands before ends like an operand or an assignment. -/
def IsGlued (before : List Char) : Prop :=
  ∃ c ∈ before.head?, isAlphanumeric c = true ∨ c ∈ ['_', '.', '=']

theorem isGlued_iff : IsGlued before ↔ before.head?.any isGluing = true := by
  simp [IsGlued, isGluing, Option.any_eq_true, or_assoc]

/-- A token of the text `before ++ middle ++ after` stands among the ten characters in front
of `middle` or among the ten behind it; `before` is read from the middle on. -/
def HasTokenBeside (before middle after : List Char) : Prop :=
  HasTokenIn (before.drop 10) (before.take 10).reverse (middle ++ after) ∨
    HasTokenIn (middle.reverse ++ before) (after.take 10) (after.drop 10)

theorem not_hasTokenBeside (hbefore : hasCodeToken before.reverse = false)
    (hafter : hasCodeToken after = false) : ¬ HasTokenBeside before middle after := by
  rintro (h | h)
  · have hwhole : HasTokenIn [] before.reverse (middle ++ after) := by
      rw [← List.take_append_drop 10 before, List.reverse_append]
      apply HasTokenIn.append_left
      rwa [List.reverse_reverse, List.append_nil]
    rw [hasCodeToken_iff.2 ((hasTokenIn_alone_iff _ _ _).2 (.inl hwhole))] at hbefore
    cases hbefore
  · have hwhole : HasTokenIn (middle.reverse ++ before) after [] := by
      rw [← List.take_append_drop 10 after]
      apply HasTokenIn.append_right
      rwa [List.append_nil]
    rw [hasCodeToken_iff.2 ((hasTokenIn_alone_iff _ _ _).2 (.inl hwhole))] at hafter
    cases hafter

end Link

namespace LinkOccurrence

open Link Text

variable {text : List Char} {o : LinkOccurrence}

structure IsDelimited (o : LinkOccurrence) : Prop where
  exists_scheme : ∃ s ∈ schemes, ∃ left, o.url = s ++ left
  stopsAt_after : StopsAt isWord o.after

theorem isDelimited_of_mem (h : o ∈ occurrences text) : o.IsDelimited := by
  obtain ⟨s, hs, left, hscheme, -⟩ := exists_scheme_append h
  refine ⟨⟨s, hs, left, hscheme⟩, ?_⟩
  obtain ⟨tail, hrun, htail⟩ := exists_trimmed_tail (run (o.url ++ o.after))
  rw [← (exists_run_of_mem h).1] at hrun
  have hafter : o.after = tail ++ (o.url ++ o.after).dropWhile (!isSeparator ·) := by
    have happend : run (o.url ++ o.after) ++ (o.url ++ o.after).dropWhile (!isSeparator ·) =
        o.url ++ o.after := List.takeWhile_append_dropWhile
    rw [hrun, List.append_assoc] at happend
    exact (List.append_cancel_left happend).symm
  rw [hafter, stopsAt_append_iff]
  constructor
  · intro c hc
    exact isWord_of_isTrimmable (htail c (List.mem_of_mem_head? hc))
  · rintro - c hc
    have hstop := List.head?_dropWhile_not (!isSeparator ·) (o.url ++ o.after)
    rw [Option.mem_def.1 hc] at hstop
    exact isWord_of_isSeparator (by simpa using hstop)

/-- What the search for a token around the link can come upon: a token beside it, a token
inside it, or a word that an end of the window cuts down to a keyword. -/
inductive ShowsToken (o : LinkOccurrence) : Prop
  | beside (h : HasTokenBeside o.before o.url o.after)
  | inside (h : HasTokenIn o.before o.url o.after)
  | cut (h : HasCutIn (o.before.drop 10) o.window (o.after.drop 10))

theorem hasCodeToken_window_iff (h : o.IsDelimited) :
    hasCodeToken o.window = true ↔ o.ShowsToken := by
  obtain ⟨⟨s, hs, left, hurl⟩, hafter⟩ := h
  have hnear : StopsAt isWord (o.after.take 10) := by
    rw [← List.take_append_drop 10 o.after] at hafter
    exact (stopsAt_append_iff.1 hafter).1
  have hparts : HasTokenIn (o.before.drop 10) o.window (o.after.drop 10) ↔
      (HasTokenIn (o.before.drop 10) (o.before.take 10).reverse (o.url ++ o.after) ∨
        HasTokenIn o.before o.url o.after) ∨
      HasTokenIn (o.url.reverse ++ o.before) (o.after.take 10) (o.after.drop 10) := by
    have hleft : ¬ HasKeywordAcross (o.before.take 10).reverse o.url o.after := by
      rw [hurl]
      exact not_hasKeywordAcross_scheme hs left
    rw [LinkOccurrence.window, contextWidth,
      hasTokenIn_append_iff (not_hasKeywordAcross_of_stopsAt hnear), List.take_append_drop,
      hasTokenIn_append_iff hleft, List.reverse_append, List.reverse_reverse,
      List.append_assoc, List.take_append_drop]
  rw [hasCodeToken_iff, hasTokenIn_alone_iff (o.before.drop 10) o.window (o.after.drop 10),
    hparts]
  constructor
  · rintro (((hbefore | hinside) | hbehind) | hcut)
    · exact .beside (.inl hbefore)
    · exact .inside hinside
    · exact .beside (.inr hbehind)
    · exact .cut hcut
  · rintro ((hbefore | hbehind) | hinside | hcut)
    · exact .inl (.inl (.inl hbefore))
    · exact .inl (.inr hbehind)
    · exact .inl (.inl (.inr hinside))
    · exact .inr hcut

theorem isInCode_iff (h : o.IsDelimited) :
    o.isInCode = true ↔ IsGlued o.before ∧ o.ShowsToken := by
  rw [isInCode, Bool.and_eq_true, ← isGlued_iff, hasCodeToken_window_iff h]

def isQuoted (o : LinkOccurrence) : Bool :=
  o.before.head?.any fun c => c == '"' || c == '\''

def unquoted (o : LinkOccurrence) : LinkOccurrence :=
  { o with before := o.before.tail }

theorem isInCode_of_isQuoted (h : o.isQuoted = true) : o.isInCode = false := by
  obtain ⟨c, hc, hquote⟩ := (Option.any_eq_true _ _).1 h
  have hglue : isGluing c = false := by
    rw [Bool.or_eq_true, beq_iff_eq, beq_iff_eq] at hquote
    rcases hquote with rfl | rfl <;> decide
  rw [isInCode, Option.mem_def.1 hc, Option.any_some, hglue, Bool.false_and]

end LinkOccurrence

namespace Link

variable {text : List Char} {o : LinkOccurrence}

/-! ## What is reported -/

def reported (text : List Char) : List LinkOccurrence :=
  (occurrences text).filter (!·.isInCode)

theorem find_eq_map_reported (text : List Char) : find text = (reported text).map (·.url) := rfl

theorem mem_reported : o ∈ reported text ↔ o ∈ occurrences text ∧ o.isInCode = false := by
  rw [reported, List.mem_filter, Bool.not_eq_true']

theorem not_mem_reported (h : o ∈ occurrences text) : o ∉ reported text ↔ o.isInCode = true := by
  rw [mem_reported, and_iff_right h, Bool.not_eq_false]

/-- A link is left out exactly when it is glued to what stands before it and the window shows
a token. So one is left out without a token beside it exactly when, besides, there is a token
inside it or a word is cut down to a keyword. -/
theorem find_drops_iff (text : List Char) :
    find text = (reported text).map (·.url) ∧
    ∀ o ∈ occurrences text,
      (o ∉ reported text ↔ IsGlued o.before ∧ o.ShowsToken) ∧
      (o ∉ reported text ∧ ¬ HasTokenBeside o.before o.url o.after ↔
        IsGlued o.before ∧ ¬ HasTokenBeside o.before o.url o.after ∧
          (HasTokenIn o.before o.url o.after ∨
            HasCutIn (o.before.drop 10) o.window (o.after.drop 10))) := by
  refine ⟨find_eq_map_reported text, fun o ho => ?_⟩
  have hdropped : o ∉ reported text ↔ IsGlued o.before ∧ o.ShowsToken :=
    (not_mem_reported ho).trans (LinkOccurrence.isInCode_iff (LinkOccurrence.isDelimited_of_mem ho))
  refine ⟨hdropped, ?_⟩
  rw [hdropped]
  constructor
  · rintro ⟨⟨hglued, hbeside | hinside | hcut⟩, hnone⟩
    · exact absurd hbeside hnone
    · exact ⟨hglued, hnone, .inl hinside⟩
    · exact ⟨hglued, hnone, .inr hcut⟩
  · rintro ⟨hglued, hnone, hinside | hcut⟩
    · exact ⟨⟨hglued, .inside hinside⟩, hnone⟩
    · exact ⟨⟨hglued, .cut hcut⟩, hnone⟩

/-- The semicolon behind the link is a token beside it. -/
theorem find_drops_assigned :
    ∃ o ∈ occurrences "const base=https://api.example.com;".toList,
      IsGlued o.before ∧ HasTokenBeside o.before o.url o.after ∧
        o ∉ reported "const base=https://api.example.com;".toList := by
  have hmem : ⟨"=esab tsnoc".toList, "https://api.example.com".toList, [';']⟩ ∈
      occurrences "const base=https://api.example.com;".toList := by decide +kernel
  have hglued : IsGlued "=esab tsnoc".toList := ⟨'=', rfl, .inr (by decide)⟩
  have hbeside : HasTokenBeside "=esab tsnoc".toList "https://api.example.com".toList [';'] :=
    .inr ⟨[], [';'], [], rfl, .punctuation rfl⟩
  exact ⟨_, hmem, hglued, hbeside,
    ((find_drops_iff _).2 _ hmem).1.2 ⟨hglued, .beside hbeside⟩⟩

/-- A window that ends within the word "important" and a word of its own path hide links
that have no token beside them. -/
theorem find_drops_withoutToken :
    (∃ o ∈ occurrences "site=https://a.b is important".toList,
      o ∉ reported "site=https://a.b is important".toList ∧
        ¬ HasTokenBeside o.before o.url o.after) ∧
    (∃ o ∈ occurrences "docs=https://a.b/class".toList,
      o ∉ reported "docs=https://a.b/class".toList ∧
        ¬ HasTokenBeside o.before o.url o.after) := by
  constructor
  · refine ⟨⟨"=etis".toList, "https://a.b".toList, " is important".toList⟩,
      by decide +kernel, by decide +kernel, not_hasTokenBeside ?_ ?_⟩
    all_goals decide +kernel
  · refine ⟨⟨"=scod".toList, "https://a.b/class".toList, []⟩,
      by decide +kernel, by decide +kernel, not_hasTokenBeside ?_ ?_⟩
    all_goals decide +kernel

/-- A link in quotes is always reported. The quote alone exempts it: without it the link is
judged by what stands before the quote and around the link, as any other. -/
theorem find_keeps_quoted (text : List Char) :
    (((occurrences text).filter (·.isQuoted)).map (·.url)).Sublist (find text) ∧
    ∀ o ∈ occurrences text, o.isQuoted = true → o ∈ reported text ∧
      (o.unquoted.isInCode = true ↔ IsGlued o.before.tail ∧ o.unquoted.ShowsToken) := by
  constructor
  · rw [find_eq_map_reported]
    refine List.Sublist.map _ (List.monotone_filter_right _ fun o hquoted => ?_)
    rw [LinkOccurrence.isInCode_of_isQuoted hquoted, Bool.not_false]
  · intro o ho hquoted
    have hunquoted : o.unquoted.IsDelimited :=
      have h := LinkOccurrence.isDelimited_of_mem ho
      ⟨h.exists_scheme, h.stopsAt_after⟩
    exact ⟨mem_reported.2 ⟨ho, LinkOccurrence.isInCode_of_isQuoted hquoted⟩,
      LinkOccurrence.isInCode_iff hunquoted⟩

/-- Without its quote the link would be left out for the semicolon. -/
theorem find_keeps_quoted_operand :
    ∃ o ∈ occurrences "x='http://a.b';".toList,
      o.isQuoted = true ∧ o ∈ reported "x='http://a.b';".toList ∧
        o.unquoted.isInCode = true := by
  have hmem : ⟨"'=x".toList, "http://a.b".toList, "';".toList⟩ ∈
      occurrences "x='http://a.b';".toList := by decide +kernel
  obtain ⟨hreported, hunquoted⟩ := (find_keeps_quoted _).2 _ hmem (by decide)
  refine ⟨_, hmem, by decide, hreported, hunquoted.2 ⟨⟨'=', rfl, .inr (by decide)⟩, ?_⟩⟩
  exact .beside (.inr ⟨['\''], [';'], [], rfl, .punctuation rfl⟩)

/-- A string literal in the midst of code, with an operator in front of it and tokens on
either side, is reported as a link. -/
theorem find_keeps_literal :
    ∃ o ∈ occurrences "const url=\"https://a.b\";".toList,
      o.isQuoted = true ∧ IsGlued o.before.tail ∧
        HasTokenBeside o.before.tail (o.before.take 1 ++ o.url) o.after ∧
        o ∈ reported "const url=\"https://a.b\";".toList := by
  refine ⟨⟨"\"=lru tsnoc".toList, "https://a.b".toList, "\";".toList⟩, by decide +kernel,
    by decide, ⟨'=', rfl, .inr (by decide)⟩, .inr ?_, by decide +kernel⟩
  exact ⟨['"'], [';'], [], rfl, .punctuation rfl⟩

end Link

end ChatTriage
