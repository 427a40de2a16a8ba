import ChatTriage.Text
import Mathlib.Data.List.TakeWhile

/-!
# Pieces, lines and words

What a text has in common with a longer one: its pieces reappear, the first and the last
of them possibly with more text around, and so do its words.
-/

namespace ChatTriage.Text

open Unicode

variable {isSeparator : Char → Bool} {c : Char} {cs text : List Char}

theorem pieces_cons_separator (h : isSeparator c = true) (cs : List Char) :
    pieces isSeparator (c :: cs) = [] :: pieces isSeparator cs := by
  rw [pieces, if_pos h]

theorem pieces_cons_inside {piece : List Char} {rest : List (List Char)}
    (h : isSeparator c = false) (hcs : pieces isSeparator cs = piece :: rest) :
    pieces isSeparator (c :: cs) = (c :: piece) :: rest := by
  rw [pieces, h, hcs]
  rfl

theorem pieces_of_no_separator (h : ∀ c ∈ text, isSeparator c = false) :
    pieces isSeparator text = [text] := by
  induction text with
  | nil => rfl
  | cons c cs ih =>
      have hcs := ih fun d hd => h d (List.mem_cons_of_mem c hd)
      exact pieces_cons_inside (h c List.mem_cons_self) hcs

theorem exists_first_piece (isSeparator : Char → Bool) (text : List Char) :
    ∃ first rest, pieces isSeparator text = first :: rest := by
  induction text with
  | nil => exact ⟨[], [], rfl⟩
  | cons c cs ih =>
      obtain ⟨first, rest, hcs⟩ := ih
      cases hc : isSeparator c with
      | true => exact ⟨[], _, pieces_cons_separator hc cs⟩
      | false => exact ⟨c :: first, rest, pieces_cons_inside hc hcs⟩

/-- Where two texts meet, the last piece of the one runs into the first of the other. -/
theorem pieces_append (isSeparator : Char → Bool) (before text : List Char) :
    ∃ front last first rest,
      pieces isSeparator before = front ++ [last] ∧
      pieces isSeparator text = first :: rest ∧
      pieces isSeparator (before ++ text) = front ++ (last ++ first) :: rest := by
  obtain ⟨first, rest, htext⟩ := exists_first_piece isSeparator text
  induction before with
  | nil => exact ⟨[], [], first, rest, rfl, htext, htext⟩
  | cons c cs ih =>
      obtain ⟨front, last, first', rest', hcs, htext', happend⟩ := ih
      cases hc : isSeparator c with
      | true =>
          refine ⟨[] :: front, last, first', rest', ?_, htext', ?_⟩
          · rw [pieces_cons_separator hc, hcs, List.cons_append]
          · rw [List.cons_append, pieces_cons_separator hc, happend, List.cons_append]
      | false =>
          cases front with
          | nil =>
              exact ⟨[], c :: last, first', rest', pieces_cons_inside hc hcs, htext',
                pieces_cons_inside hc happend⟩
          | cons piece front =>
              exact ⟨(c :: piece) :: front, last, first', rest', pieces_cons_inside hc hcs,
                htext', pieces_cons_inside hc happend⟩

theorem pieces_append_separator (isSeparator : Char → Bool) (before text : List Char)
    (h : isSeparator c = true) :
    pieces isSeparator (before ++ c :: text) =
      pieces isSeparator before ++ pieces isSeparator text := by
  obtain ⟨front, last, first, rest, hbefore, htext, happend⟩ :=
    pieces_append isSeparator before (c :: text)
  rw [pieces_cons_separator h, List.cons.injEq] at htext
  obtain ⟨rfl, rfl⟩ := htext
  rw [happend, hbefore, List.append_nil, List.append_cons]

theorem length_pieces_append (isSeparator : Char → Bool) (before text : List Char) :
    (pieces isSeparator (before ++ text)).length + 1 =
      (pieces isSeparator before).length + (pieces isSeparator text).length := by
  obtain ⟨front, last, first, rest, hbefore, htext, happend⟩ :=
    pieces_append isSeparator before text
  rw [hbefore, htext, happend]
  simp only [List.length_append, List.length_cons, List.length_nil]
  omega

theorem exists_piece_of_prefix {piece : List Char} (h : piece ∈ pieces isSeparator text)
    (after : List Char) : ∃ longer ∈ pieces isSeparator (text ++ after), piece <+: longer := by
  obtain ⟨front, last, first, rest, htext, -, happend⟩ := pieces_append isSeparator text after
  rw [htext, List.mem_append, List.mem_singleton] at h
  rw [happend]
  rcases h with h | rfl
  · exact ⟨piece, List.mem_append_left _ h, List.prefix_refl piece⟩
  · exact ⟨piece ++ first, by simp, List.prefix_append piece first⟩

theorem length_pieces (isSeparator : Char → Bool) (text : List Char) :
    (pieces isSeparator text).length = text.countP isSeparator + 1 := by
  induction text with
  | nil => rfl
  | cons c cs ih =>
      cases hc : isSeparator c with
      | true => rw [pieces_cons_separator hc, List.length_cons, ih, List.countP_cons_of_pos hc]
      | false =>
          obtain ⟨first, rest, hcs⟩ := exists_first_piece isSeparator cs
          rw [pieces_cons_inside hc hcs, List.countP_cons_of_neg (by simp [hc]), ← ih, hcs]
          rfl

/-- Every piece is the run up to the next separator: the first from the head of the text on,
the others from behind a separator on. -/
theorem pieces_eq_takeWhile {first : List Char} {rest : List (List Char)}
    (h : pieces isSeparator text = first :: rest) :
    first = text.takeWhile (!isSeparator ·) ∧ ∀ piece ∈ rest, ∃ front c after,
      isSeparator c = true ∧ text = front ++ c :: after ∧
        piece = after.takeWhile (!isSeparator ·) := by
  induction text generalizing first rest with
  | nil =>
      obtain ⟨rfl, rfl⟩ := List.cons.inj h
      exact ⟨rfl, by simp⟩
  | cons c cs ih =>
      obtain ⟨first', rest', hcs⟩ := exists_first_piece isSeparator cs
      obtain ⟨hfirst, hrest⟩ := ih hcs
      -- What stands behind a separator in the rest of the text does so in the whole text.
      have hlater : ∀ piece ∈ rest', ∃ front d after, isSeparator d = true ∧
          c :: cs = front ++ d :: after ∧ piece = after.takeWhile (!isSeparator ·) := by
        intro piece hpiece
        obtain ⟨front, d, after, hd, hcs, hrun⟩ := hrest piece hpiece
        exact ⟨c :: front, d, after, hd, by rw [hcs, List.cons_append], hrun⟩
      cases hc : isSeparator c with
      | true =>
          rw [pieces_cons_separator hc, hcs] at h
          obtain ⟨rfl, rfl⟩ := List.cons.inj h
          refine ⟨by simp [hc], List.forall_mem_cons.2 ⟨?_, hlater⟩⟩
          exact ⟨[], c, cs, hc, rfl, hfirst⟩
      | false =>
          rw [pieces_cons_inside hc hcs] at h
          obtain ⟨rfl, rfl⟩ := List.cons.inj h
          exact ⟨by simp [hc, hfirst], hlater⟩

theorem pieces_stand {first : List Char} {rest : List (List Char)}
    (h : pieces isSeparator text = first :: rest) :
    first <+: text ∧ ∀ piece ∈ rest, ∃ front c after,
      isSeparator c = true ∧ text = front ++ c :: (piece ++ after) := by
  obtain ⟨rfl, hrest⟩ := pieces_eq_takeWhile h
  refine ⟨List.takeWhile_prefix _, fun piece hpiece => ?_⟩
  obtain ⟨front, c, after, hc, rfl, rfl⟩ := hrest piece hpiece
  exact ⟨front, c, after.dropWhile _, hc, by rw [List.takeWhile_append_dropWhile]⟩

/-! ## Lines -/

/-- A text is cut into lines where it is cut into pieces. What follows the last line feed
is a line of its own unless it is empty. -/
theorem lines_eq {front : List (List Char)} {last : List Char}
    (h : pieces (· == '\n') text = front ++ [last]) :
    lines text = front.map dropCarriageReturn ++ if last = [] then [] else [last] := by
  unfold lines
  simp only [h, List.dropLast_concat, List.getLast?_concat]
  cases last <;> simp

theorem exists_lines (text : List Char) : ∃ (ended : List (List Char)) (last : List Char),
    text = ended.flatMap (· ++ ['\n']) ++ last ∧ (∀ line ∈ ended, '\n' ∉ line) ∧
      '\n' ∉ last := by
  induction text with
  | nil => exact ⟨[], [], rfl, by simp, by simp⟩
  | cons c cs ih =>
      obtain ⟨ended, last, rfl, hended, hlast⟩ := ih
      by_cases hc : c = '\n'
      · subst hc
        exact ⟨[] :: ended, last, rfl, List.forall_mem_cons.2 ⟨by simp, hended⟩, hlast⟩
      · cases ended with
        | nil => exact ⟨[], c :: last, rfl, by simp, by simp [Ne.symm hc, hlast]⟩
        | cons line ended =>
            obtain ⟨hline, hended⟩ := List.forall_mem_cons.1 hended
            have hlonger : '\n' ∉ c :: line := by simp [Ne.symm hc, hline]
            exact ⟨(c :: line) :: ended, last, rfl,
              List.forall_mem_cons.2 ⟨hlonger, hended⟩, hlast⟩

theorem pieces_flatMap_feed {ended : List (List Char)} {last : List Char}
    (hended : ∀ line ∈ ended, '\n' ∉ line) (hlast : '\n' ∉ last) :
    pieces (· == '\n') (ended.flatMap (· ++ ['\n']) ++ last) = ended ++ [last] := by
  have halone : ∀ line : List Char, '\n' ∉ line → pieces (· == '\n') line = [line] := by
    intro line hline
    apply pieces_of_no_separator
    intro c hc
    rw [beq_eq_false_iff_ne]
    rintro rfl
    exact hline hc
  induction ended with
  | nil => exact halone last hlast
  | cons line ended ih =>
      obtain ⟨hline, hended⟩ := List.forall_mem_cons.1 hended
      rw [List.flatMap_cons, List.append_assoc, List.append_assoc, List.singleton_append,
        pieces_append_separator _ line _ rfl, halone line hline, ih hended]
      rfl

theorem dropCarriageReturn_of_not_mem {line : List Char} (h : '\r' ∉ line) :
    dropCarriageReturn line = line := by
  rw [dropCarriageReturn, if_neg]
  intro hlast
  exact h (List.mem_of_getLast? (beq_iff_eq.1 hlast))

theorem lines_flatMap_feed {ended : List (List Char)} {last : List Char}
    (hended : ∀ line ∈ ended, '\r' ∉ line ∧ '\n' ∉ line) (hlast : '\n' ∉ last) :
    lines (ended.flatMap (· ++ ['\n']) ++ last) =
      ended ++ if last = [] then [] else [last] := by
  rw [lines_eq (pieces_flatMap_feed (fun line hline => (hended line hline).2) hlast)]
  congr 1
  calc ended.map dropCarriageReturn
    _ = ended.map id :=
        List.map_congr_left fun line hline => dropCarriageReturn_of_not_mem (hended line hline).1
    _ = ended := List.map_id ended

theorem dropCarriageReturn_concat (line : List Char) :
    dropCarriageReturn (line ++ ['\r']) = line := by
  simp [dropCarriageReturn]

theorem trimEnd_eq_nil : trimEnd text = [] ↔ ∀ c ∈ text, isBlank c = true := by
  rw [trimEnd, List.reverse_eq_nil_iff, List.dropWhile_eq_nil_iff]
  simp only [List.mem_reverse]

theorem trim_eq_nil : trim text = [] ↔ ∀ c ∈ text, isBlank c = true := by
  rw [trim, trimEnd_eq_nil]
  constructor
  · intro h
    apply List.dropWhile_eq_nil_iff.1
    -- The rest would start with a character that is not blank.
    by_contra hrest
    have hfirst := List.head_dropWhile_not isBlank hrest
    rw [h _ (List.head_mem hrest)] at hfirst
    cases hfirst
  · intro h c hc
    exact h c ((List.dropWhile_sublist isBlank).subset hc)

theorem trim_ne_nil_of_sublist {short long : List Char} (hsub : short.Sublist long)
    (h : trim short ≠ []) : trim long ≠ [] := by
  intro hlong
  exact h (trim_eq_nil.2 fun c hc => trim_eq_nil.1 hlong c (hsub.subset hc))

/-! ## Runs -/

/-- The text does not start with a character of the kind. -/
def StopsAt (kind : Char → Bool) (text : List Char) : Prop :=
  ∀ c ∈ text.head?, kind c = false

theorem stopsAt_nil (kind : Char → Bool) : StopsAt kind [] := by
  rintro c ⟨⟩

theorem stopsAt_cons {kind : Char → Bool} (h : kind c = false) (cs : List Char) :
    StopsAt kind (c :: cs) := by
  rintro d hd
  obtain rfl := Option.some.inj hd
  exact h

theorem stopsAt_append_iff {kind : Char → Bool} {front back : List Char} :
    StopsAt kind (front ++ back) ↔ StopsAt kind front ∧ (front = [] → StopsAt kind back) := by
  cases front with
  | nil => simp [stopsAt_nil]
  | cons c front => simp [StopsAt]

theorem longestRun_iff {kind : Char → Bool} {run rest : List Char} :
    text.takeWhile kind = run ∧ text.dropWhile kind = rest ↔
      text = run ++ rest ∧ (∀ c ∈ run, kind c = true) ∧ StopsAt kind rest := by
  constructor
  · rintro ⟨rfl, rfl⟩
    refine ⟨List.takeWhile_append_dropWhile.symm, fun c => List.mem_takeWhile_imp, ?_⟩
    intro c hc
    have hfirst := List.head?_dropWhile_not kind text
    rw [Option.mem_def.1 hc] at hfirst
    simpa using hfirst
  · rintro ⟨rfl, hrun, hrest⟩
    rw [List.takeWhile_append_of_pos hrun, List.dropWhile_append_of_pos hrun]
    cases rest with
    | nil => simp
    | cons c rest =>
        have hc : kind c = false := hrest c rfl
        simp [hc]

theorem longestRun_split (kind : Char → Bool) (text : List Char) :
    text = text.takeWhile kind ++ text.dropWhile kind ∧
      (∀ c ∈ text.takeWhile kind, kind c = true) ∧ StopsAt kind (text.dropWhile kind) :=
  longestRun_iff.1 ⟨rfl, rfl⟩

theorem prefix_of_longestRun {kind : Char → Bool} {run rest more : List Char}
    (hrest : StopsAt kind rest) (hmore : ∀ c ∈ more, kind c = true)
    (h : more <+: run ++ rest) : more <+: run := by
  rcases List.prefix_or_prefix_of_prefix h (List.prefix_append run rest) with hle | ⟨extra, rfl⟩
  · exact hle
  · obtain ⟨back, rfl⟩ := (List.prefix_append_right_inj run).1 h
    cases extra with
    | nil => simp
    | cons c extra =>
        have hc := hmore c (by simp)
        rw [hrest c rfl] at hc
        cases hc

/-- The pieces of a text without separators of a kind are the runs of that kind that no
neighbour prolongs; `front` is what stands before the piece, nearest first. -/
theorem mem_pieces_iff {kind : Char → Bool} {piece : List Char} :
    piece ∈ pieces (!kind ·) text ↔ ∃ front back, text = front.reverse ++ (piece ++ back) ∧
      (∀ c ∈ piece, kind c = true) ∧ StopsAt kind front ∧ StopsAt kind back := by
  constructor
  · intro h
    obtain ⟨first, rest, hpieces⟩ := exists_first_piece (!kind ·) text
    obtain ⟨hfirst, hrest⟩ := pieces_eq_takeWhile hpieces
    simp only [Bool.not_not, Bool.not_eq_true'] at hfirst hrest
    rw [hpieces] at h
    rcases List.mem_cons.1 h with rfl | h
    · obtain ⟨htext, hrun, hstop⟩ := longestRun_iff.1 ⟨hfirst.symm, rfl⟩
      exact ⟨[], _, htext, hrun, stopsAt_nil kind, hstop⟩
    · obtain ⟨front, c, after, hc, rfl, hpiece⟩ := hrest piece h
      obtain ⟨hafter, hrun, hstop⟩ := longestRun_iff.1 ⟨hpiece.symm, rfl⟩
      refine ⟨c :: front.reverse, _, ?_, hrun, stopsAt_cons hc _, hstop⟩
      rw [← hafter, List.reverse_cons, List.reverse_reverse, List.append_assoc]
      rfl
  · rintro ⟨front, back, rfl, hpiece, hfront, hback⟩
    have halone : pieces (!kind ·) piece = [piece] :=
      pieces_of_no_separator fun c hc => by simp [hpiece c hc]
    have hstart : piece ∈ pieces (!kind ·) (piece ++ back) := by
      cases back with
      | nil => rw [List.append_nil, halone, List.mem_singleton]
      | cons d back =>
          have hd : (!kind d) = true := by simp [hback d rfl]
          rw [pieces_append_separator (!kind ·) piece back hd, halone]
          exact List.mem_cons_self
    cases front with
    | nil => exact hstart
    | cons d front =>
        have hd : (!kind d) = true := by simp [hfront d rfl]
        rw [List.reverse_cons, List.append_assoc, List.singleton_append,
          pieces_append_separator (!kind ·) _ _ hd]
        exact List.mem_append_right _ hstart

/-- Blanks at either end of the text stand around `core`, which has none at its own ends. -/
structure TrimsTo (text core : List Char) : Prop where
  exists_blanks : ∃ front back, text = front ++ (core ++ back) ∧
    (∀ c ∈ front, isBlank c = true) ∧ ∀ c ∈ back, isBlank c = true
  solid_start : StopsAt isBlank core
  solid_end : StopsAt isBlank core.reverse

theorem trimEnd_eq_iff {core : List Char} :
    trimEnd text = core ↔ ∃ back, text = core ++ back ∧ (∀ c ∈ back, isBlank c = true) ∧
      StopsAt isBlank core.reverse := by
  constructor
  · rintro rfl
    obtain ⟨htext, hback, hstop⟩ := longestRun_split isBlank text.reverse
    refine ⟨(text.reverse.takeWhile isBlank).reverse, ?_, fun c hc => ?_, ?_⟩
    · rw [trimEnd, ← List.reverse_append, ← htext, List.reverse_reverse]
    · exact hback c (List.mem_reverse.1 hc)
    · rwa [trimEnd, List.reverse_reverse]
  · rintro ⟨back, rfl, hback, hstop⟩
    have hback' : ∀ c ∈ back.reverse, isBlank c = true :=
      fun c hc => hback c (List.mem_reverse.1 hc)
    rw [trimEnd, (longestRun_iff.2 ⟨List.reverse_append, hback', hstop⟩).2, List.reverse_reverse]

theorem trim_eq_iff {core : List Char} : trim text = core ↔ TrimsTo text core := by
  constructor
  · intro h
    obtain ⟨htext, hfront, hrest⟩ := longestRun_split isBlank text
    obtain ⟨back, hcore, hback, hend⟩ := trimEnd_eq_iff.1 h
    rw [hcore] at htext hrest
    exact ⟨⟨_, back, htext, hfront, hback⟩, (stopsAt_append_iff.1 hrest).1, hend⟩
  · rintro ⟨⟨front, back, rfl, hfront, hback⟩, hstart, hend⟩
    by_cases hcore : core = []
    · -- Nothing marks where the blanks in front end.
      subst hcore
      rw [List.nil_append]
      exact trim_eq_nil.2 fun c hc => (List.mem_append.1 hc).elim (hfront c) (hback c)
    · have hrest : StopsAt isBlank (core ++ back) :=
        stopsAt_append_iff.2 ⟨hstart, fun h => absurd h hcore⟩
      rw [trim, (longestRun_iff.2 ⟨rfl, hfront, hrest⟩).2]
      exact trimEnd_eq_iff.2 ⟨back, rfl, hback, hend⟩

theorem occurs_iff {word : List Char} : occurs word text = true ↔ word <:+: text := by
  induction text with
  | nil => rw [occurs, List.isEmpty_iff, List.infix_nil]
  | cons c cs ih =>
      rw [occurs, Bool.or_eq_true, List.isPrefixOf_iff_prefix, ih, List.infix_cons_iff]

end ChatTriage.Text
