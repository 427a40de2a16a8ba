import ChatTriage.Attachment
import ChatTriage.Proofs.InlineData
import ChatTriage.Proofs.Link

/-!
# Links to files

A link is one to a file when what stands in front of its query and fragment ends, behind a
slash of its own, in a name with a dot and a known extension. The first such link of a text
that leads with no inline data is the file that the text is.
-/

namespace ChatTriage.Attachment

open Unicode Text

variable {text url tail suffix name s front back : List Char} {c mark : Char}
  {a : Attachment}

theorem upTo_eq_iff {isSeparator : Char → Bool} :
    upTo isSeparator text = front ↔
      (∀ d ∈ front, isSeparator d = false) ∧
        ∃ back, text = front ++ back ∧ StopsAt (!isSeparator ·) back := by
  constructor
  · intro h
    obtain ⟨htext, hfront, hback⟩ := longestRun_iff.1 ⟨h, rfl⟩
    exact ⟨by simpa using hfront, _, htext, hback⟩
  · rintro ⟨hfront, back, htext, hback⟩
    exact (longestRun_iff.2 ⟨htext, by simpa using hfront, hback⟩).1

theorem behindFirst?_append (hfront : mark ∉ front) (back : List Char) :
    behindFirst? (· == mark) (front ++ mark :: back) = some back := by
  have hinside : ∀ d ∈ front, (!(d == mark)) = true := by
    intro d hd
    simpa using ne_of_mem_of_not_mem hd hfront
  rw [behindFirst?, (longestRun_iff.2 ⟨rfl, hinside, stopsAt_cons (by simp) back⟩).2]

theorem behindFirst?_of_not_mem (h : mark ∉ text) : behindFirst? (· == mark) text = none := by
  have hinside : ∀ d ∈ text, (!(d == mark)) = true := by
    intro d hd
    simpa using ne_of_mem_of_not_mem hd h
  rw [behindFirst?, List.dropWhile_eq_nil_iff.2 hinside]

theorem behindLast_append (hback : mark ∉ back) (front : List Char) :
    behindLast (· == mark) (front ++ mark :: back) = back := by
  have hrun : upTo (· == mark) (back.reverse ++ mark :: front.reverse) = back.reverse := by
    refine upTo_eq_iff.2 ⟨fun d hd => ?_, _, rfl, stopsAt_cons (by simp) front.reverse⟩
    simpa using ne_of_mem_of_not_mem (List.mem_reverse.1 hd) hback
  rw [behindLast, List.reverse_append, List.reverse_cons, List.append_assoc,
    List.singleton_append, hrun, List.reverse_reverse]

theorem behindLast_of_not_mem (h : mark ∉ text) : behindLast (· == mark) text = text := by
  have hrun : upTo (· == mark) text.reverse = text.reverse := by
    refine upTo_eq_iff.2 ⟨fun d hd => ?_, [], (List.append_nil _).symm, stopsAt_nil _⟩
    simpa using ne_of_mem_of_not_mem (List.mem_reverse.1 hd) h
  rw [behindLast, hrun, List.reverse_reverse]

theorem exists_last (h : mark ∈ text) :
    ∃ front back, text = front ++ mark :: back ∧ mark ∉ back := by
  obtain ⟨back, front, hreverse, hback⟩ :=
    List.eq_append_cons_of_mem (List.mem_reverse.2 h)
  refine ⟨front.reverse, back.reverse, ?_, fun hmem => hback (List.mem_reverse.1 hmem)⟩
  rw [← List.reverse_reverse text, hreverse, List.reverse_append, List.reverse_cons,
    List.append_assoc, List.singleton_append]

theorem behindLast_eq_iff (h : mark ∈ text) :
    behindLast (· == mark) text = name ↔ ∃ front, text = front ++ mark :: name ∧ mark ∉ name := by
  constructor
  · rintro rfl
    obtain ⟨front, back, rfl, hback⟩ := exists_last h
    rw [behindLast_append hback]
    exact ⟨front, rfl, hback⟩
  · rintro ⟨front, rfl, hname⟩
    exact behindLast_append hname front

/-- Who goes behind the first mark and from there behind the last one is behind the last mark
of all. -/
theorem map_behindLast_behindFirst? (mark : Char) (text : List Char) :
    (behindFirst? (· == mark) text).map (behindLast (· == mark)) =
      if mark ∈ text then some (behindLast (· == mark) text) else none := by
  by_cases h : mark ∈ text
  · obtain ⟨front, rest, rfl, hfront⟩ := List.eq_append_cons_of_mem h
    rw [behindFirst?_append hfront, if_pos h, Option.map_some]
    congr 1
    -- The first mark is the last one of all unless another stands behind it.
    by_cases hrest : mark ∈ rest
    · obtain ⟨middle, back, rfl, hback⟩ := exists_last hrest
      rw [behindLast_append hback, ← List.cons_append, ← List.append_assoc,
        behindLast_append hback]
    · rw [behindLast_append hrest, behindLast_of_not_mem hrest]
  · rw [behindFirst?_of_not_mem h, if_neg h, Option.map_none]

def isMark (c : Char) : Bool :=
  c == '?' || c == '#'

theorem lastSegment?_eq (url : List Char) :
    lastSegment? url = if '/' ∈ behindScheme (upTo isMark url) then
      some (behindLast (· == '/') (behindScheme (upTo isMark url))) else none :=
  map_behindLast_behindFirst? '/' (behindScheme (upTo isMark url))

theorem isMark_of_mem_scheme (h : s ∈ Link.schemes) : ∀ c ∈ s, isMark c = false := by
  have hall : ∀ s ∈ Link.schemes, s.all (!isMark ·) = true := by decide
  simpa using hall s h

theorem behindScheme_append (h : s ∈ Link.schemes) (tail : List Char) :
    behindScheme (s ++ tail) = tail := by
  simp only [Link.schemes, List.mem_cons, List.not_mem_nil, or_false] at h
  rcases h with rfl | rfl <;> rfl

theorem behindScheme_upTo_append (h : s ∈ Link.schemes) (tail : List Char) :
    behindScheme (upTo isMark (s ++ tail)) = upTo isMark tail := by
  have hinside : ∀ c ∈ s, (!isMark c) = true := by
    intro c hc
    rw [isMark_of_mem_scheme h c hc]
    rfl
  rw [upTo, List.takeWhile_append_of_pos hinside, behindScheme_append h]
  rfl

theorem lastSegment?_eq_some_iff (h : s ∈ Link.schemes) :
    lastSegment? (s ++ tail) = some name ↔
      ∃ place, upTo isMark tail = place ++ '/' :: name ∧ '/' ∉ name := by
  rw [lastSegment?_eq, behindScheme_upTo_append h]
  split_ifs with hslash
  · rw [Option.some.injEq, behindLast_eq_iff hslash]
  · refine iff_of_false (by simp) ?_
    rintro ⟨place, hplace, -⟩
    simp [hplace] at hslash

/-- A query or a fragment takes no part in the last segment. -/
theorem lastSegment?_append_suffix (hurl : ∀ c ∈ url, isMark c = false)
    (hsuffix : StopsAt (!isMark ·) suffix) : lastSegment? (url ++ suffix) = lastSegment? url := by
  have hwith : upTo isMark (url ++ suffix) = url := upTo_eq_iff.2 ⟨hurl, _, rfl, hsuffix⟩
  have hwithout : upTo isMark url = url :=
    upTo_eq_iff.2 ⟨hurl, [], (List.append_nil url).symm, stopsAt_nil _⟩
  rw [lastSegment?_eq, lastSegment?_eq, hwith, hwithout]

/-! ## Files behind links -/

def IsFileExtension (extension : List Char) : Prop :=
  ∃ known ∈ fileExtensions, equalIgnoringAsciiCase known.toList extension = true

structure FileLink where
  scheme : List Char
  /-- The host and the folders, up to the last slash in front of the suffix. -/
  place : List Char
  stem : List Char
  extension : List Char
  /-- The query and the fragment. -/
  suffix : List Char
  scheme_mem : scheme ∈ Link.schemes
  place_inside : ∀ c ∈ place, isMark c = false
  stem_inside : ∀ c ∈ stem, c ≠ '/' ∧ isMark c = false
  extension_inside : ∀ c ∈ extension, c ≠ '.' ∧ c ≠ '/' ∧ isMark c = false
  isFileExtension : IsFileExtension extension
  stopsAt_suffix : StopsAt (!isMark ·) suffix

namespace FileLink

variable (l : FileLink)

def filename : List Char :=
  l.stem ++ '.' :: l.extension

def toText : List Char :=
  l.scheme ++ (l.place ++ '/' :: l.filename ++ l.suffix)

def attachment : Attachment where
  filename := String.ofList l.filename
  extension := String.ofList (l.extension.map Char.toUpper)
  source := .url (String.ofList l.toText)

theorem filename_inside : ∀ c ∈ l.filename, c ≠ '/' ∧ isMark c = false := by
  intro c hc
  rcases List.mem_append.1 hc with hc | hc
  · exact l.stem_inside c hc
  · rcases List.mem_cons.1 hc with rfl | hc
    · decide
    · exact (l.extension_inside c hc).2

theorem filename_subset : l.filename ⊆ l.toText := by
  intro c hc
  simp [toText, hc]

theorem lastSegment?_toText : lastSegment? l.toText = some l.filename := by
  refine (lastSegment?_eq_some_iff l.scheme_mem).2 ⟨l.place, ?_, fun hslash => ?_⟩
  · refine upTo_eq_iff.2 ⟨fun c hc => ?_, l.suffix, rfl, l.stopsAt_suffix⟩
    rcases List.mem_append.1 hc with hc | hc
    · exact l.place_inside c hc
    · rcases List.mem_cons.1 hc with rfl | hc
      · decide
      · exact (l.filename_inside c hc).2
  · exact (l.filename_inside '/' hslash).1 rfl

end FileLink

def LinksToFile (url : List Char) : Prop :=
  ∃ l : FileLink, l.toText = url

theorem ofLink?_eq_some_iff :
    ofLink? url = some a ↔ ∃ stem extension, lastSegment? url = some (stem ++ '.' :: extension) ∧
      '.' ∉ extension ∧ IsFileExtension extension ∧
        a = ⟨String.ofList (stem ++ '.' :: extension), String.ofList (extension.map Char.toUpper),
          .url (String.ofList url)⟩ := by
  rw [ofLink?]
  constructor
  · intro h
    obtain ⟨filename, hfilename, h⟩ := Option.bind_eq_some_iff.1 h
    split_ifs at h with hdot
    dsimp only at h
    split_ifs at h with hknown
    obtain ⟨stem, hsplit, hlast⟩ := (behindLast_eq_iff (by simpa using hdot)).1 rfl
    refine ⟨stem, _, hsplit ▸ hfilename, hlast, List.any_eq_true.1 hknown, ?_⟩
    rw [← hsplit, Option.some.inj h]
  · rintro ⟨stem, extension, hsegment, hlast, hknown, rfl⟩
    rw [hsegment]
    simp only [Option.bind_eq_bind, Option.bind_some]
    rw [if_pos (by simp), behindLast_append hlast, if_pos (List.any_eq_true.2 hknown)]

theorem source_of_ofLink? (h : ofLink? url = some a) : a.source = .url (String.ofList url) := by
  obtain ⟨stem, extension, -, -, -, rfl⟩ := ofLink?_eq_some_iff.1 h
  rfl

theorem FileLink.ofLink?_toText (l : FileLink) : ofLink? l.toText = some l.attachment :=
  ofLink?_eq_some_iff.2 ⟨l.stem, l.extension, l.lastSegment?_toText,
    fun hdot => (l.extension_inside '.' hdot).1 rfl, l.isFileExtension, rfl⟩

theorem exists_fileLink (hs : s ∈ Link.schemes) (h : ofLink? (s ++ tail) = some a) :
    ∃ l : FileLink, l.toText = s ++ tail ∧ l.attachment = a := by
  obtain ⟨stem, extension, hsegment, hlast, hknown, rfl⟩ := ofLink?_eq_some_iff.1 h
  obtain ⟨place, hfront, hslash⟩ := (lastSegment?_eq_some_iff hs).1 hsegment
  obtain ⟨hinside, suffix, rfl, hsuffix⟩ := upTo_eq_iff.1 hfront
  refine ⟨⟨s, place, stem, extension, suffix, hs, fun c hc => ?_, fun c hc => ⟨?_, ?_⟩,
    fun c hc => ⟨?_, ?_, ?_⟩, hknown, hsuffix⟩, rfl, rfl⟩
  · exact hinside c (by simp [hc])
  · exact ne_of_mem_of_not_mem (by simp [hc]) hslash
  · exact hinside c (by simp [hc])
  · exact ne_of_mem_of_not_mem hc hlast
  · exact ne_of_mem_of_not_mem (by simp [hc]) hslash
  · exact hinside c (by simp [hc])

theorem ofLink?_eq_none_iff (hs : s ∈ Link.schemes) :
    ofLink? (s ++ tail) = none ↔ ¬ LinksToFile (s ++ tail) := by
  constructor
  · rintro hnone ⟨l, hl⟩
    rw [← hl, l.ofLink?_toText] at hnone
    cases hnone
  · intro hnot
    refine Option.eq_none_iff_forall_ne_some.2 fun a ha => ?_
    obtain ⟨l, hl, -⟩ := exists_fileLink hs ha
    exact hnot ⟨l, hl⟩

def naming (a : Attachment) : String × String :=
  (a.filename, a.extension)

theorem map_naming_ofLink?_congr {url' : List Char} (h : lastSegment? url = lastSegment? url') :
    (ofLink? url).map naming = (ofLink? url').map naming := by
  rw [ofLink?, ofLink?, h]
  cases lastSegment? url' with
  | none => rfl
  | some filename =>
      simp only [Option.bind_eq_bind, Option.bind_some]
      split_ifs <;> rfl

theorem not_linksToFile_of_host {host : List Char} (hs : s ∈ Link.schemes)
    (hslash : '/' ∉ host) (hhost : ∀ c ∈ host, isMark c = false)
    (hsuffix : StopsAt (!isMark ·) suffix) : ¬ LinksToFile (s ++ (host ++ suffix)) := by
  have hrun : upTo isMark (host ++ suffix) = host := upTo_eq_iff.2 ⟨hhost, _, rfl, hsuffix⟩
  rintro ⟨l, hl⟩
  obtain ⟨place, hplace, -⟩ := (lastSegment?_eq_some_iff hs).1 (hl ▸ l.lastSegment?_toText)
  have hsplit : host = place ++ '/' :: l.filename := hrun.symm.trans hplace
  exact hslash (by simp [hsplit])

theorem linksToFile_append_suffix_iff (hs : s ∈ Link.schemes)
    (htail : ∀ c ∈ tail, isMark c = false) (hsuffix : StopsAt (!isMark ·) suffix) :
    (ofLink? (s ++ tail ++ suffix)).map naming = (ofLink? (s ++ tail)).map naming ∧
      (LinksToFile (s ++ tail ++ suffix) ↔ LinksToFile (s ++ tail)) := by
  have hurl : ∀ c ∈ s ++ tail, isMark c = false := by
    intro c hc
    rcases List.mem_append.1 hc with hc | hc
    · exact isMark_of_mem_scheme hs c hc
    · exact htail c hc
  have hsame := map_naming_ofLink?_congr (lastSegment?_append_suffix hurl hsuffix)
  refine ⟨hsame, not_iff_not.1 ?_⟩
  rw [← ofLink?_eq_none_iff hs, List.append_assoc, ← ofLink?_eq_none_iff hs,
    ← List.append_assoc]
  rw [← Option.map_eq_none_iff, hsame, Option.map_eq_none_iff]

/-! ## The first link to a file -/

/-- What is found in a text is the file behind the first of its links that is one to a file. -/
structure IsFirstFile (text : List Char) (found : Option Attachment) : Prop where
  some_iff : ∀ a, found = some a ↔ ∃ before l after,
    Link.extract text = before ++ FileLink.toText l :: after ∧
      (∀ url ∈ before, ¬ LinksToFile url) ∧ l.attachment = a
  none_iff : found = none ↔ ∀ url ∈ Link.extract text, ¬ LinksToFile url
  filename_inside : ∀ a, found = some a → ∀ c ∈ a.filename.toList,
    c ≠ '/' ∧ isMark c = false ∧ Link.isSeparator c = false
  filename_ends : ∀ a, found = some a → ∃ stem extension,
    a.filename.toList = stem ++ '.' :: extension ∧ IsFileExtension extension ∧
      a.extension.toList = extension.map Char.toUpper

theorem ofLink?_eq_none_of_mem_extract (h : url ∈ Link.extract text) :
    ofLink? url = none ↔ ¬ LinksToFile url := by
  obtain ⟨s, hs, tail, rfl⟩ := Link.exists_scheme_of_mem_extract h
  exact ofLink?_eq_none_iff hs

theorem findSome?_ofLink?_eq_some_iff :
    (Link.extract text).findSome? ofLink? = some a ↔ ∃ before l after,
      Link.extract text = before ++ FileLink.toText l :: after ∧
        (∀ url ∈ before, ¬ LinksToFile url) ∧ l.attachment = a := by
  rw [List.findSome?_eq_some_iff]
  constructor
  · rintro ⟨before, url, after, hextract, ha, hbefore⟩
    have hurl : url ∈ Link.extract text := by simp [hextract]
    obtain ⟨s, hs, tail, rfl⟩ := Link.exists_scheme_of_mem_extract hurl
    obtain ⟨l, hl, rfl⟩ := exists_fileLink hs ha
    refine ⟨before, l, after, hl ▸ hextract, fun url hurl => ?_, rfl⟩
    have hmem : url ∈ Link.extract text := by simp [hextract, hurl]
    exact (ofLink?_eq_none_of_mem_extract hmem).1 (hbefore url hurl)
  · rintro ⟨before, l, after, hextract, hbefore, rfl⟩
    refine ⟨before, l.toText, after, hextract, l.ofLink?_toText, fun url hurl => ?_⟩
    have hmem : url ∈ Link.extract text := by simp [hextract, hurl]
    exact (ofLink?_eq_none_of_mem_extract hmem).2 (hbefore url hurl)

theorem isFirstFile_findSome? (text : List Char) :
    IsFirstFile text ((Link.extract text).findSome? ofLink?) where
  some_iff a := findSome?_ofLink?_eq_some_iff
  none_iff := by
    rw [List.findSome?_eq_none_iff]
    exact forall₂_congr fun url hurl => ofLink?_eq_none_of_mem_extract hurl
  filename_inside a ha c hc := by
    obtain ⟨before, l, after, hextract, -, rfl⟩ := findSome?_ofLink?_eq_some_iff.1 ha
    rw [FileLink.attachment, String.toList_ofList] at hc
    have hmem : l.toText ∈ Link.extract text := by simp [hextract]
    obtain ⟨hslash, hmark⟩ := l.filename_inside c hc
    exact ⟨hslash, hmark, Link.isSeparator_of_mem_extract hmem c (l.filename_subset hc)⟩
  filename_ends a ha := by
    obtain ⟨before, l, after, -, -, rfl⟩ := findSome?_ofLink?_eq_some_iff.1 ha
    exact ⟨l.stem, l.extension, String.toList_ofList, l.isFileExtension, String.toList_ofList⟩

/-- A text that leads with no inline data is the file behind its first link to one. A link to
a host alone is to no file, and neither a query nor a fragment makes a difference. -/
theorem ofText?_firstFileLink :
    (∀ text, (∀ p : InlineLead, p.toText ≠ text) → IsFirstFile text (ofText? text)) ∧
    (∀ s ∈ Link.schemes, ∀ host suffix, '/' ∉ host → (∀ c ∈ host, isMark c = false) →
      StopsAt (!isMark ·) suffix → ¬ LinksToFile (s ++ (host ++ suffix))) ∧
    (∀ s ∈ Link.schemes, ∀ tail suffix, (∀ c ∈ tail, isMark c = false) →
      StopsAt (!isMark ·) suffix →
        (ofLink? (s ++ tail ++ suffix)).map naming = (ofLink? (s ++ tail)).map naming ∧
          (LinksToFile (s ++ tail ++ suffix) ↔ LinksToFile (s ++ tail))) := by
  refine ⟨fun text hlead => ?_, fun s hs host suffix => not_linksToFile_of_host hs,
    fun s hs tail suffix => linksToFile_append_suffix_iff hs⟩
  rw [ofText?, readInlineData_eq_none_iff.2 hlead]
  exact isFirstFile_findSome? text

def hiddenPdf : FileLink where
  scheme := "http://".toList
  place := "b.c/x.d".toList
  stem := []
  extension := "Pdf".toList
  suffix := "?v=1/2.txt".toList
  scheme_mem := by decide
  place_inside := by simp [isMark]
  stem_inside := by simp
  extension_inside := by simp [isMark]
  isFileExtension := ⟨"pdf", by decide, by decide⟩
  stopsAt_suffix := stopsAt_cons (by decide) _

/-- The first link is to a host that is called like a file, and the last to a file as well. -/
theorem ofText?_firstFileLink_hidden :
    ofText? "https://a.zip http://b.c/x.d/.Pdf?v=1/2.txt, http://e/f.doc".toList =
      some ⟨".Pdf", "PDF", .url "http://b.c/x.d/.Pdf?v=1/2.txt"⟩ := by
  obtain ⟨hfirst, hhost, -⟩ := ofText?_firstFileLink
  refine ((hfirst _ (readInlineData_eq_none_iff.1 (by decide +kernel))).some_iff _).2
    ⟨["https://a.zip".toList], hiddenPdf, ["http://e/f.doc".toList], by decide +kernel, ?_,
      by decide +kernel⟩
  rw [List.forall_mem_singleton]
  exact hhost "https://".toList (by decide) "a.zip".toList [] (by decide) (by simp [isMark])
    (stopsAt_nil _)

end ChatTriage.Attachment
