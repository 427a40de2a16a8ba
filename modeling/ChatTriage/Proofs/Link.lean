import ChatTriage.Link
import Mathlib.Data.List.TakeWhile
import Mathlib.Tactic.SplitIfs

/-!
# Links on their own

A link that is cut out of a text and searched again is found as it is, for trimming leaves
nothing more to trim. It has to have something behind its scheme: where the text behind a
scheme is punctuation and closing parentheses only, trimming leaves the bare scheme, which
is listed as a link of the text and is none on its own.
-/

namespace ChatTriage.Link

variable {text u s tail cs ds before : List Char} {c : Char} {o : LinkOccurrence}

theorem startsHere_iff :
    startsHere text = true ↔
      ∃ s ∈ schemes, ∃ c rest, isSeparator c = false ∧ text = s ++ c :: rest := by
  rw [startsHere, List.any_eq_true]
  apply exists_congr
  intro s
  apply and_congr_right
  intro _
  rw [Bool.and_eq_true, List.isPrefixOf_iff_prefix]
  constructor
  · rintro ⟨⟨rest, rfl⟩, hnext⟩
    rw [List.drop_left] at hnext
    cases rest with
    | nil => simp at hnext
    | cons c rest => exact ⟨c, rest, by simpa using hnext, rfl⟩
  · rintro ⟨c, rest, hc, rfl⟩
    refine ⟨List.prefix_append s (c :: rest), ?_⟩
    rw [List.drop_left]
    simpa using hc

theorem isSeparator_of_mem_scheme (h : s ∈ schemes) :
    ∀ c ∈ s, isSeparator c = false := by
  have hall : ∀ s ∈ schemes, s.all (!isSeparator ·) = true := by decide
  simpa using hall s h

theorem scheme_eq_append (h : s ∈ schemes) : ∃ front, s = front ++ ['/'] := by
  have hall : ∀ s ∈ schemes, s = s.dropLast ++ ['/'] := by decide
  exact ⟨s.dropLast, hall s h⟩

def run (text : List Char) : List Char :=
  text.takeWhile (!isSeparator ·)

/-- The occurrence starts somewhere in the text, and its link is what is left of the run
from there when punctuation is trimmed. -/
def StandsIn (before text : List Char) (o : LinkOccurrence) : Prop :=
  ∃ passed rest, text = passed ++ rest ∧ startsHere rest = true ∧
    o = ⟨passed.reverse ++ before, trim (run rest), rest.drop (trim (run rest)).length⟩

theorem StandsIn.cons (h : StandsIn (c :: before) cs o) : StandsIn before (c :: cs) o := by
  obtain ⟨passed, rest, rfl, hstart, rfl⟩ := h
  exact ⟨c :: passed, rest, rfl, hstart, by simp⟩

theorem occurrencesFrom_of_start (before : List Char) (h : startsHere (c :: cs) = true) :
    occurrencesFrom before 0 (c :: cs) =
      ⟨before, trim (run (c :: cs)), (c :: cs).drop (trim (run (c :: cs))).length⟩ ::
        occurrencesFrom (c :: before) ((run (c :: cs)).length - 1) cs := by
  rw [occurrencesFrom, if_pos h]
  rfl

theorem occurrencesFrom_of_no_start (before : List Char) (h : startsHere (c :: cs) = false) :
    occurrencesFrom before 0 (c :: cs) = occurrencesFrom (c :: before) 0 cs := by
  rw [occurrencesFrom, h, if_neg Bool.false_ne_true]

theorem standsIn_of_mem {skip : Nat} (h : o ∈ occurrencesFrom before skip text) :
    StandsIn before text o := by
  induction text generalizing before skip with
  | nil => simp [occurrencesFrom] at h
  | cons c cs ih =>
      cases skip with
      | succ skip =>
          rw [occurrencesFrom] at h
          exact (ih h).cons
      | zero =>
          cases hstart : startsHere (c :: cs) with
          | true =>
              rw [occurrencesFrom_of_start before hstart] at h
              rcases List.mem_cons.1 h with rfl | h
              · exact ⟨[], c :: cs, rfl, hstart, rfl⟩
              · exact (ih h).cons
          | false =>
              rw [occurrencesFrom_of_no_start before hstart] at h
              exact (ih h).cons

theorem occurrences_eq_nil
    (h : ∀ passed rest, text = passed ++ rest → startsHere rest = false) :
    occurrences text = [] := by
  apply List.eq_nil_iff_forall_not_mem.2
  intro o ho
  obtain ⟨passed, rest, htext, hstart, -⟩ := standsIn_of_mem ho
  rw [h passed rest htext] at hstart
  cases hstart

theorem occurrencesFrom_of_length_le {skip : Nat} (h : cs.length ≤ skip) :
    occurrencesFrom before skip cs = [] := by
  induction cs generalizing before skip with
  | nil => cases skip <;> rfl
  | cons c cs ih =>
      cases skip with
      | zero => simp at h
      | succ skip =>
          rw [occurrencesFrom]
          exact ih (by simpa using h)

/-- A text that is one run from a scheme on holds one link. -/
theorem occurrences_of_run_eq (hstart : startsHere text = true) (hrun : run text = text) :
    occurrences text = [⟨[], trim text, text.drop (trim text).length⟩] := by
  cases text with
  | nil => simp [startsHere, schemes] at hstart
  | cons c cs =>
      rw [occurrences, occurrencesFrom_of_start [] hstart, hrun]
      congr 1
      exact occurrencesFrom_of_length_le (by simp)

/-! ## Trimming -/

def isTrimmable (c : Char) : Bool :=
  isPunctuation c || c == ')'

theorem trimReversed_cons (c : Char) (cs : List Char) :
    isTrimmable c = true ∧ trimReversed (c :: cs) = trimReversed cs ∨
      trimReversed (c :: cs) = c :: cs := by
  rw [trimReversed]
  split_ifs with hpunctuation hparen
  · exact .inl ⟨by simp [isTrimmable, hpunctuation], rfl⟩
  · rw [Bool.and_eq_true, beq_iff_eq] at hparen
    exact .inl ⟨by simp [isTrimmable, hparen.1], rfl⟩
  · exact .inr rfl

theorem trimReversed_trimReversed (cs : List Char) :
    trimReversed (trimReversed cs) = trimReversed cs := by
  fun_induction trimReversed cs with
  | case1 => rfl
  | case2 c cs hpunctuation ih => exact ih
  | case3 c cs hpunctuation hparen ih => exact ih
  | case4 c cs hpunctuation hparen => rw [trimReversed, if_neg hpunctuation, if_neg hparen]

theorem trim_trim (u : List Char) : trim (trim u) = trim u := by
  rw [trim, trim, List.reverse_reverse, trimReversed_trimReversed]

theorem exists_trimReversed_append (cs ds : List Char) :
    ∃ left, left <:+ cs ∧ trimReversed (cs ++ '/' :: ds) = left ++ '/' :: ds := by
  induction cs with
  | nil => exact ⟨[], List.suffix_refl [], rfl⟩
  | cons c cs ih =>
      rw [List.cons_append]
      rcases trimReversed_cons c (cs ++ '/' :: ds) with ⟨-, htrim⟩ | hkeep
      · obtain ⟨left, hleft, heq⟩ := ih
        exact ⟨left, hleft.trans (List.suffix_cons c cs), htrim.trans heq⟩
      · exact ⟨c :: cs, List.suffix_refl _, hkeep⟩

theorem exists_trim_append (hs : s ∈ schemes) (tail : List Char) :
    ∃ left, left <+: tail ∧ trim (s ++ tail) = s ++ left := by
  obtain ⟨front, rfl⟩ := scheme_eq_append hs
  obtain ⟨left, hleft, heq⟩ := exists_trimReversed_append tail.reverse front.reverse
  refine ⟨left.reverse, List.reverse_suffix.1 (by simpa using hleft), ?_⟩
  rw [trim, List.reverse_append, List.reverse_append, List.reverse_singleton,
    List.singleton_append, heq]
  simp

theorem isTrimmable_of_trimReversed_eq (h : trimReversed (cs ++ ds) = ds) :
    ∀ c ∈ cs, isTrimmable c = true := by
  induction cs with
  | nil => simp
  | cons c cs ih =>
      rw [List.cons_append] at h
      rcases trimReversed_cons c (cs ++ ds) with ⟨hc, htrim⟩ | hkeep
      · exact List.forall_mem_cons.2 ⟨hc, ih (htrim.symm.trans h)⟩
      · have hlength := congrArg List.length (hkeep.symm.trans h)
        simp at hlength
        omega

theorem trimReversed_of_isTrimmable (h : ∀ c ∈ cs, isTrimmable c = true)
    (hopening : '(' ∉ ds) : trimReversed (cs ++ '/' :: ds) = '/' :: ds := by
  induction cs with
  | nil => rfl
  | cons c cs ih =>
      obtain ⟨hc, hcs⟩ := List.forall_mem_cons.1 h
      have hnone : (cs ++ '/' :: ds).count '(' = 0 := by
        apply List.count_eq_zero.2
        intro hmem
        rcases List.mem_append.1 hmem with hmem | hmem
        · have htrimmable := hcs _ hmem
          revert htrimmable
          decide
        · simp [hopening] at hmem
      rw [isTrimmable, Bool.or_eq_true, beq_iff_eq] at hc
      rw [List.cons_append, trimReversed, ih hcs]
      rcases hc with hpunctuation | rfl
      · rw [if_pos hpunctuation]
      · have hmore : (')' :: (cs ++ '/' :: ds)).count '(' <
            (')' :: (cs ++ '/' :: ds)).count ')' := by
          rw [List.count_cons_of_ne (by decide), hnone, List.count_cons_self]
          omega
        rw [if_neg (by decide), if_pos]
        exact Bool.and_eq_true_iff.2 ⟨beq_self_eq_true ')', decide_eq_true hmore⟩

theorem trim_eq_scheme_iff (hs : s ∈ schemes) :
    trim (s ++ tail) = s ↔ ∀ c ∈ tail, isTrimmable c = true := by
  have hreverse : trim (s ++ tail) = s ↔
      trimReversed (tail.reverse ++ s.reverse) = s.reverse := by
    rw [trim, List.reverse_append, List.reverse_eq_iff]
  have hopening : '(' ∉ s := by
    have hall : ∀ s ∈ schemes, '(' ∉ s := by decide
    exact hall s hs
  rw [hreverse]
  constructor
  · intro h c hc
    exact isTrimmable_of_trimReversed_eq h c (List.mem_reverse.2 hc)
  · intro h
    obtain ⟨front, rfl⟩ := scheme_eq_append hs
    rw [List.reverse_append, List.reverse_singleton, List.singleton_append]
    apply trimReversed_of_isTrimmable
    · intro c hc
      exact h c (List.mem_reverse.1 hc)
    · intro hmem
      exact hopening (List.mem_append_left _ (List.mem_reverse.1 hmem))

theorem run_append (hs : ∀ c ∈ s, isSeparator c = false) (cs : List Char) :
    run (s ++ cs) = s ++ run cs := by
  apply List.takeWhile_append_of_pos
  intro c hc
  rw [hs c hc]
  rfl

theorem run_eq_self (hs : ∀ c ∈ s, isSeparator c = false) : run s = s := by
  have happend := run_append hs []
  rwa [List.append_nil, show run [] = [] from rfl, List.append_nil] at happend

theorem isSeparator_of_mem_run (h : c ∈ run text) : isSeparator c = false := by
  simpa using List.mem_takeWhile_imp h

/-- The text from a link on is a run from a scheme up to the next character that ends a
link, and the link is what trimming leaves of that run. -/
theorem exists_run_of_mem (h : o ∈ occurrences text) :
    o.url = trim (run (o.url ++ o.after)) ∧
      ∃ s ∈ schemes, ∃ tail, run (o.url ++ o.after) = s ++ tail := by
  obtain ⟨passed, rest, -, hstart, rfl⟩ := standsIn_of_mem h
  obtain ⟨s, hs, c, cs, -, rfl⟩ := startsHere_iff.1 hstart
  have hrun : run (s ++ c :: cs) = s ++ run (c :: cs) :=
    run_append (isSeparator_of_mem_scheme hs) (c :: cs)
  obtain ⟨left, hleft, htrim⟩ := exists_trim_append hs (run (c :: cs))
  have hinitial : trim (run (s ++ c :: cs)) <+: s ++ c :: cs := by
    rw [hrun, htrim]
    exact (List.prefix_append_right_inj s).2 (hleft.trans (List.takeWhile_prefix _))
  dsimp only
  rw [List.prefix_iff_eq_append.1 hinitial]
  exact ⟨rfl, s, hs, run (c :: cs), hrun⟩

theorem exists_scheme_append (h : o ∈ occurrences text) :
    ∃ s ∈ schemes, ∃ left, o.url = s ++ left ∧ ∀ c ∈ o.url, isSeparator c = false := by
  obtain ⟨hurl, s, hs, tail, hrun⟩ := exists_run_of_mem h
  obtain ⟨left, hleft, htrim⟩ := exists_trim_append hs tail
  rw [hrun, htrim] at hurl
  have hinitial : o.url <+: run (o.url ++ o.after) := by
    rw [hrun, hurl]
    exact (List.prefix_append_right_inj s).2 hleft
  exact ⟨s, hs, left, hurl, fun c hc => isSeparator_of_mem_run (hinitial.subset hc)⟩

theorem mem_extract : u ∈ extract text ↔ ∃ o ∈ occurrences text, o.url = u :=
  List.mem_map

theorem find_sublist_extract (text : List Char) : (find text).Sublist (extract text) :=
  List.filter_sublist.map _

theorem isSeparator_of_mem_extract (h : u ∈ extract text) :
    ∀ c ∈ u, isSeparator c = false := by
  obtain ⟨o, ho, rfl⟩ := mem_extract.1 h
  obtain ⟨s, hs, left, -, hinside⟩ := exists_scheme_append ho
  exact hinside

theorem exists_scheme_of_mem_extract (h : u ∈ extract text) :
    ∃ s ∈ schemes, ∃ left, u = s ++ left := by
  obtain ⟨o, ho, rfl⟩ := mem_extract.1 h
  obtain ⟨s, hs, left, hurl, -⟩ := exists_scheme_append ho
  exact ⟨s, hs, left, hurl⟩

theorem ne_nil_of_mem_extract (h : u ∈ extract text) : u ≠ [] := by
  obtain ⟨s, hs, left, rfl⟩ := exists_scheme_of_mem_extract h
  obtain ⟨front, rfl⟩ := scheme_eq_append hs
  simp

/-! ## A link by itself -/

/-- The link has something behind its scheme and is the one link of itself. -/
structure IsLinkAlone (u : List Char) : Prop where
  exists_scheme : ∃ s ∈ schemes, ∃ c tail, u = s ++ c :: tail
  extract_eq : extract u = [u]
  find_eq : find u = [u]
  summary_eq : LinkSummary.ofText u = .single (String.ofList u)

theorem not_isLinkAlone_scheme (hs : s ∈ schemes) : ¬ IsLinkAlone s := by
  have hnone : ∀ s ∈ schemes, extract s = [] := by decide
  intro h
  have heq := h.extract_eq
  rw [hnone s hs] at heq
  cases heq

theorem isLinkAlone_of_trim_eq (hs : s ∈ schemes)
    (htail : ∀ d ∈ c :: tail, isSeparator d = false)
    (htrim : trim (s ++ c :: tail) = s ++ c :: tail) : IsLinkAlone (s ++ c :: tail) := by
  have hstart : startsHere (s ++ c :: tail) = true :=
    startsHere_iff.2 ⟨s, hs, c, tail, htail c List.mem_cons_self, rfl⟩
  have hinside : ∀ d ∈ s ++ c :: tail, isSeparator d = false := by
    intro d hd
    rcases List.mem_append.1 hd with hd | hd
    · exact isSeparator_of_mem_scheme hs d hd
    · exact htail d hd
  have honly : occurrences (s ++ c :: tail) = [⟨[], s ++ c :: tail, []⟩] := by
    rw [occurrences_of_run_eq hstart (run_eq_self hinside), htrim, List.drop_length]
  have hfind : find (s ++ c :: tail) = [s ++ c :: tail] := by
    rw [find, honly]
    rfl
  exact {
    exists_scheme := ⟨s, hs, c, tail, rfl⟩
    extract_eq := by
      rw [extract, honly]
      rfl
    find_eq := hfind
    summary_eq := by
      rw [LinkSummary.ofText, hfind]
      rfl }

/-- Behind the scheme of the run that the link was trimmed from, something else stands than
punctuation and closing parentheses. -/
def KeepsTail (o : LinkOccurrence) : Prop :=
  ∃ s ∈ schemes, ∃ tail, run (o.url ++ o.after) = s ++ tail ∧ ∃ c ∈ tail, isTrimmable c = false

theorem isLinkAlone_of_keepsTail (h : o ∈ occurrences text) (hkeeps : KeepsTail o) :
    IsLinkAlone o.url := by
  obtain ⟨s, hs, tail, hrun, c, hc, hkeep⟩ := hkeeps
  obtain ⟨left, hleft, htrim⟩ := exists_trim_append hs tail
  have hinside : ∀ d ∈ left, isSeparator d = false := by
    intro d hd
    apply isSeparator_of_mem_run
    rw [hrun]
    exact List.mem_append_right s (hleft.subset hd)
  rw [(exists_run_of_mem h).1, hrun, htrim]
  cases left with
  | nil =>
      rw [List.append_nil] at htrim
      rw [(trim_eq_scheme_iff hs).1 htrim c hc] at hkeep
      cases hkeep
  | cons d left =>
      apply isLinkAlone_of_trim_eq hs hinside
      rw [← htrim, trim_trim]

theorem keepsTail_of_isLinkAlone (h : o ∈ occurrences text) (halone : IsLinkAlone o.url) :
    KeepsTail o := by
  obtain ⟨hurl, s, hs, tail, hrun⟩ := exists_run_of_mem h
  refine ⟨s, hs, tail, hrun, ?_⟩
  by_contra hnone
  have hbare : trim (s ++ tail) = s := by
    apply (trim_eq_scheme_iff hs).2
    intro c hc
    by_contra hkeep
    exact hnone ⟨c, hc, Bool.eq_false_iff.2 hkeep⟩
  rw [hurl, hrun, hbare] at halone
  exact not_isLinkAlone_scheme hs halone

/-- A link that is found in a text is a link by itself exactly when trimming has left
something behind its scheme, and so are all links of a text exactly when this is so for each
of them. -/
theorem extract_alone (text : List Char) :
    (∀ o ∈ occurrences text, IsLinkAlone o.url ↔ KeepsTail o) ∧
      ((∀ u ∈ extract text, IsLinkAlone u) ↔ ∀ o ∈ occurrences text, KeepsTail o) := by
  have hiff : ∀ o ∈ occurrences text, IsLinkAlone o.url ↔ KeepsTail o :=
    fun o ho => ⟨keepsTail_of_isLinkAlone ho, isLinkAlone_of_keepsTail ho⟩
  refine ⟨hiff, ?_⟩
  rw [extract, List.forall_mem_map]
  exact forall₂_congr hiff

theorem extract_alone_parentheses : IsLinkAlone "http://a.b/(c)".toList := by
  have hmem : ⟨['('], "http://a.b/(c)".toList, ").".toList⟩ ∈
      occurrences "(http://a.b/(c)).".toList := by decide +kernel
  refine ((extract_alone _).1 _ hmem).2
    ⟨"http://".toList, ?_, "a.b/(c)).".toList, ?_, 'a', ?_, ?_⟩
  all_goals decide +kernel

/-- Where only a full stop stands behind the scheme, the scheme is listed as a link. -/
theorem extract_bareScheme :
    "http://".toList ∈ extract "http://.".toList ∧ ¬ IsLinkAlone "http://".toList :=
  ⟨by decide +kernel, not_isLinkAlone_scheme (by decide)⟩

end ChatTriage.Link
