import ChatTriage.Link.Span
import ChatTriage.Proofs.LinkContext

/-!
# The look at what surrounds a link

The window around a link is cut out between two byte positions, and both stand between
characters of the text, however many bytes these take: no slice fails. What is in the window
is the link with up to ten characters on either side, so what is further away has no say in
whether the link is reported.
-/

namespace ChatTriage

namespace Text

variable {text front middle back : List Char} {position start stop : Nat}

theorem byteLength_nil : byteLength [] = 0 := rfl

theorem byteLength_cons (c : Char) (cs : List Char) :
    byteLength (c :: cs) = c.utf8Size + byteLength cs := rfl

theorem byteLength_append (front back : List Char) :
    byteLength (front ++ back) = byteLength front + byteLength back := by
  induction front with
  | nil => rw [List.nil_append, byteLength_nil, Nat.zero_add]
  | cons c cs ih => rw [List.cons_append, byteLength_cons, byteLength_cons, ih, Nat.add_assoc]

theorem byteLength_reverse (text : List Char) : byteLength text.reverse = byteLength text := by
  induction text with
  | nil => rfl
  | cons c cs ih =>
      rw [List.reverse_cons, byteLength_append, ih, byteLength_cons, byteLength_cons,
        byteLength_nil, Nat.add_zero, Nat.add_comm]

theorem byteLength_eq_zero : byteLength text = 0 ↔ text = [] := by
  cases text with
  | nil => exact iff_of_true rfl rfl
  | cons c cs =>
      have hpos := c.utf8Size_pos
      rw [byteLength_cons]
      exact iff_of_false (by omega) (by simp)

/-- A text can be cut at a byte position exactly when characters end there. -/
theorem splitAtByte?_eq_some_iff :
    splitAtByte? position text = some (front, back) ↔
      text = front ++ back ∧ byteLength front = position := by
  fun_induction splitAtByte? position text generalizing front with
  | case1 text =>
      rw [Option.some.injEq, Prod.mk.injEq]
      constructor
      · rintro ⟨rfl, rfl⟩
        exact ⟨rfl, rfl⟩
      · rintro ⟨rfl, hzero⟩
        obtain rfl := byteLength_eq_zero.1 hzero
        exact ⟨rfl, rfl⟩
  | case2 position =>
      refine iff_of_false (by simp) ?_
      rintro ⟨hnil, hlength⟩
      rw [(List.append_eq_nil_iff.1 hnil.symm).1] at hlength
      cases hlength
  | case3 position c cs hle ih =>
      rw [Option.map_eq_some_iff]
      constructor
      · rintro ⟨⟨front', back'⟩, hsplit, hparts⟩
        obtain ⟨rfl, rfl⟩ := Prod.mk.inj hparts
        obtain ⟨rfl, hlength⟩ := ih.1 hsplit
        refine ⟨rfl, ?_⟩
        rw [byteLength_cons, hlength]
        omega
      · rintro ⟨hsplit, hlength⟩
        cases front with
        | nil => cases hlength
        | cons d front =>
            obtain ⟨rfl, rfl⟩ := List.cons.inj hsplit
            rw [byteLength_cons] at hlength
            exact ⟨(front, back), ih.2 ⟨rfl, by omega⟩, rfl⟩
  | case4 position c cs hlt =>
      refine iff_of_false (by simp) ?_
      rintro ⟨hsplit, hlength⟩
      cases front with
      | nil => cases hlength
      | cons d front =>
          obtain ⟨rfl, rfl⟩ := List.cons.inj hsplit
          rw [byteLength_cons] at hlength
          omega

theorem slice?_eq_some (front middle back : List Char) :
    slice? (front ++ (middle ++ back)) (byteLength front) (byteLength front + byteLength middle) =
      some middle := by
  have hstop : splitAtByte? (byteLength front + byteLength middle) (front ++ (middle ++ back)) =
      some (front ++ middle, back) :=
    splitAtByte?_eq_some_iff.2 ⟨by rw [List.append_assoc], byteLength_append front middle⟩
  have hstart : splitAtByte? (byteLength front) (front ++ middle) = some (front, middle) :=
    splitAtByte?_eq_some_iff.2 ⟨rfl, rfl⟩
  rw [slice?, hstop]
  dsimp
  rw [hstart]
  rfl

theorem getElem?_startsFrom (position : Nat) (text : List Char) {i : Nat} (h : i < text.length) :
    (startsFrom position text)[i]? = some (position + byteLength (text.take i)) := by
  induction text generalizing position i with
  | nil => simp at h
  | cons c cs ih =>
      cases i with
      | zero => rfl
      | succ i =>
          rw [startsFrom, List.getElem?_cons_succ, ih _ (by simpa using h), List.take_succ_cons,
            byteLength_cons, Nat.add_assoc]

theorem length_startsFrom (position : Nat) (text : List Char) :
    (startsFrom position text).length = text.length := by
  induction text generalizing position with
  | nil => rfl
  | cons c cs ih => rw [startsFrom, List.length_cons, List.length_cons, ih]

end Text

open Text

namespace LinkOccurrence

def text (o : LinkOccurrence) : List Char :=
  o.before.reverse ++ (o.url ++ o.after)

theorem byteLength_text (o : LinkOccurrence) :
    byteLength o.text = o.span.stop + byteLength o.after := by
  rw [text, byteLength_append, byteLength_append, byteLength_reverse, ← Nat.add_assoc]
  rfl

theorem slice?_before (o : LinkOccurrence) :
    slice? o.text 0 o.span.start = some o.before.reverse := by
  have hslice := slice?_eq_some [] o.before.reverse (o.url ++ o.after)
  rwa [byteLength_nil, Nat.zero_add, byteLength_reverse] at hslice

theorem slice?_url (o : LinkOccurrence) : slice? o.text o.span.start o.span.stop = some o.url := by
  have hslice := slice?_eq_some o.before.reverse o.url o.after
  rwa [byteLength_reverse] at hslice

theorem slice?_after (o : LinkOccurrence) :
    slice? o.text o.span.stop (byteLength o.text) = some o.after := by
  have hslice := slice?_eq_some (o.before.reverse ++ o.url) o.after []
  rw [List.append_nil, List.append_assoc, byteLength_append, byteLength_reverse] at hslice
  rw [byteLength_text]
  exact hslice

end LinkOccurrence

/-! ## The window -/

namespace Link

variable (o : LinkOccurrence)

theorem windowStart?_text :
    windowStart? o.text o.span.start = some (byteLength (o.before.drop 10)) := by
  have hstart : windowStart? o.text o.span.start =
      some (((startsFrom 0 o.before.reverse).reverse[9]?).getD 0) := by
    rw [windowStart?, o.slice?_before]
    rfl
  rw [hstart, Option.some.injEq]
  by_cases hlength : 10 ≤ o.before.length
  · have hindex : o.before.length - (o.before.length - 1 - 9) = 10 := by omega
    have hcount : (startsFrom 0 o.before.reverse).length = o.before.length := by
      rw [length_startsFrom, List.length_reverse]
    rw [List.getElem?_reverse (by omega), hcount,
      getElem?_startsFrom _ _ (by rw [List.length_reverse]; omega), Option.getD_some,
      List.take_reverse, hindex, byteLength_reverse, Nat.zero_add]
  · have hshort : (startsFrom 0 o.before.reverse).reverse.length ≤ 9 := by
      rw [List.length_reverse, length_startsFrom, List.length_reverse]
      omega
    rw [List.getElem?_eq_none hshort, List.drop_of_length_le (by omega)]
    rfl

theorem windowStop?_text :
    windowStop? o.text o.span.stop = some (o.span.stop + byteLength (o.after.take 10)) := by
  have hstop : windowStop? o.text o.span.stop =
      some (((startsFrom 0 o.after)[10]?).elim (byteLength o.text) (o.span.stop + ·)) := by
    rw [windowStop?, o.slice?_after]
    rfl
  rw [hstop, Option.some.injEq]
  by_cases hlength : 10 < o.after.length
  · rw [getElem?_startsFrom _ _ hlength, Option.elim_some, Nat.zero_add]
  · have hshort : (startsFrom 0 o.after).length ≤ 10 := by
      rw [length_startsFrom]
      omega
    rw [List.getElem?_eq_none hshort, Option.elim_none, o.byteLength_text,
      List.take_of_length_le (by omega)]

/-- The window that is cut out of the text is the link with the nearest ten characters on
either side, or with as many as there are. -/
theorem window?_text : window? o.text o.span = some o.window := by
  have htext : o.text = (o.before.drop 10).reverse ++ (o.window ++ o.after.drop 10) := by
    have hbefore : o.before.reverse = (o.before.drop 10).reverse ++ (o.before.take 10).reverse := by
      rw [← List.reverse_append, List.take_append_drop]
    have hafter : o.after = o.after.take 10 ++ o.after.drop 10 :=
      (List.take_append_drop 10 o.after).symm
    rw [LinkOccurrence.text, hbefore]
    nth_rewrite 1 [hafter]
    simp [LinkOccurrence.window, contextWidth]
  have hstop : o.span.stop + byteLength (o.after.take 10) =
      byteLength (o.before.drop 10) + byteLength o.window := by
    have hbefore := congrArg byteLength (List.take_append_drop 10 o.before)
    rw [byteLength_append] at hbefore
    rw [LinkOccurrence.window, contextWidth, byteLength_append, byteLength_append,
      byteLength_reverse, LinkOccurrence.span]
    dsimp only
    omega
  have hslice := slice?_eq_some (o.before.drop 10).reverse o.window (o.after.drop 10)
  rw [byteLength_reverse, ← hstop, ← htext] at hslice
  rw [window?, windowStart?_text, windowStop?_text]
  exact hslice

theorem isInCodeAt?_text : isInCodeAt? o.text o.span = some o.isInCode := by
  rw [isInCodeAt?, o.slice?_before, window?_text, LinkOccurrence.isInCode]
  dsimp
  rw [List.getLast?_reverse]
  cases o.before.head? with
  | none => rfl
  | some c => cases hc : isGluing c <;> simp [hc]

structure ReadsWindow : Prop where
  start_eq : windowStart? o.text o.span.start = some (byteLength (o.before.drop 10))
  stop_eq : windowStop? o.text o.span.stop = some (o.span.stop + byteLength (o.after.take 10))
  window_eq : window? o.text o.span =
    some ((o.before.take 10).reverse ++ o.url ++ o.after.take 10)
  inCode_eq : isInCodeAt? o.text o.span = some o.isInCode

theorem readsWindow : ReadsWindow o where
  start_eq := windowStart?_text o
  stop_eq := windowStop?_text o
  window_eq := window?_text o
  inCode_eq := isInCodeAt?_text o

variable {text text' : List Char} {o o' : LinkOccurrence} {os : List LinkOccurrence}

theorem text_of_mem (h : o ∈ occurrences text) : o.text = text := by
  obtain ⟨passed, rest, rfl, -, rfl⟩ := standsIn_of_mem h
  have hinitial : trim (run rest) <+: rest :=
    (trim_isPrefix (run rest)).trans (List.takeWhile_prefix _)
  rw [LinkOccurrence.text]
  dsimp only
  rw [List.prefix_iff_eq_append.1 hinitial, List.append_nil, List.reverse_reverse]

theorem spans_eq (text : List Char) : spans text = (occurrences text).map (·.span) := by
  rw [spans, List.filter_eq_self, List.forall_mem_map]
  intro o ho
  have hne : o.url ≠ [] := ne_nil_of_mem_extract (mem_extract.2 ⟨o, ho, rfl⟩)
  have hpos : byteLength o.url ≠ 0 := fun h => hne (byteLength_eq_zero.1 h)
  rw [decide_eq_true_eq, LinkOccurrence.span]
  dsimp only
  omega

theorem findAmong?_eq (h : ∀ o ∈ os, o.text = text) :
    findAmong? text (os.map (·.span)) = some ((os.filter (!·.isInCode)).map (·.url)) := by
  induction os with
  | nil => rfl
  | cons o os ih =>
      obtain ⟨rfl, hothers⟩ := List.forall_mem_cons.1 h
      rw [List.map_cons, findAmong?, isInCodeAt?_text, ih hothers]
      cases hcode : o.isInCode with
      | true => simp [hcode]
      | false => simp [hcode, o.slice?_url]

theorem findAmong?_spans (text : List Char) : findAmong? text (spans text) = some (find text) := by
  rw [spans_eq, findAmong?_eq fun o ho => text_of_mem ho]
  rfl

/-! ## Locality -/

structure AgreeNearby (o o' : LinkOccurrence) : Prop where
  url_eq : o.url = o'.url
  before_eq : o.before.take 10 = o'.before.take 10
  after_eq : o.after.take 10 = o'.after.take 10

theorem AgreeNearby.isInCode_eq (h : AgreeNearby o o') : o.isInCode = o'.isInCode := by
  have hhead : o.before.head? = o'.before.head? := by
    have hheads := congrArg List.head? h.before_eq
    rwa [List.head?_take, List.head?_take] at hheads
  rw [LinkOccurrence.isInCode, LinkOccurrence.isInCode, LinkOccurrence.window,
    LinkOccurrence.window, contextWidth, hhead, h.before_eq, h.url_eq, h.after_eq]

/-- Every link can be judged by its bytes, and is judged by itself and the nearest ten
characters on either side: what is reported of a text are those of its links, in order, that
are not part of code, and whether a link is among them does not depend on anything further
away. -/
theorem find_local (text : List Char) :
    (∀ o, ReadsWindow o) ∧ (∀ o ∈ occurrences text, o.text = text) ∧
    findAmong? text (spans text) = some (find text) ∧ (find text).Sublist (extract text) ∧
    ∀ text', ∀ o ∈ occurrences text, ∀ o' ∈ occurrences text', AgreeNearby o o' →
      (o ∈ reported text ↔ o' ∈ reported text') := by
  refine ⟨readsWindow, fun o ho => text_of_mem ho, findAmong?_spans text,
    find_sublist_extract text, fun text' o ho o' ho' hnearby => ?_⟩
  rw [mem_reported, mem_reported, hnearby.isInCode_eq]
  exact and_congr_left' (iff_of_true ho ho')

/-- The keyword is among the nearest ten characters, and what differs is further away. -/
theorem find_local_accented :
    ∃ o ∈ occurrences "ééé const x=http://a.b and so on; yes".toList,
      ∃ o' ∈ occurrences "zé const x=http://a.b and so on (no)".toList, AgreeNearby o o' ∧
        o ∉ reported "ééé const x=http://a.b and so on; yes".toList ∧
        o' ∉ reported "zé const x=http://a.b and so on (no)".toList := by
  have hmem : ⟨"=x tsnoc ééé".toList, "http://a.b".toList, " and so on; yes".toList⟩ ∈
      occurrences "ééé const x=http://a.b and so on; yes".toList := by decide +kernel
  have hmem' : ⟨"=x tsnoc éz".toList, "http://a.b".toList, " and so on (no)".toList⟩ ∈
      occurrences "zé const x=http://a.b and so on (no)".toList := by decide +kernel
  have hnearby : AgreeNearby ⟨"=x tsnoc ééé".toList, "http://a.b".toList,
      " and so on; yes".toList⟩ ⟨"=x tsnoc éz".toList, "http://a.b".toList,
      " and so on (no)".toList⟩ := ⟨rfl, by decide, by decide⟩
  have hdropped : ⟨"=x tsnoc ééé".toList, "http://a.b".toList, " and so on; yes".toList⟩ ∉
      reported "ééé const x=http://a.b and so on; yes".toList := by decide +kernel
  obtain ⟨-, -, -, -, hlocal⟩ := find_local "ééé const x=http://a.b and so on; yes".toList
  have hiff := hlocal _ _ hmem _ hmem' hnearby
  exact ⟨_, hmem, _, hmem', hnearby, hdropped, fun h => hdropped (hiff.2 h)⟩

end Link

end ChatTriage
