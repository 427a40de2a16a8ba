import ChatTriage.Proofs.FileLink
import Mathlib.Data.List.Nodup

/-!
# Files in the text itself

A text that leads with inline data has the parts of one in one way only: the data runs as far
as characters of base64 do. The media type alone decides how the file is called, and what
follows the data decides nothing.
-/

namespace ChatTriage.Attachment

open Unicode Text

variable {text mime data : List Char} {a : Attachment}

namespace InlineLead

theorem readInlineData_toText (l : InlineLead) :
    readInlineData l.toText = some (l.mime, l.data) :=
  readInlineData_eq_some_iff.2 ⟨l, rfl, rfl, rfl⟩

theorem ofText?_toText (l : InlineLead) :
    ofText? l.toText = some (ofInlineData l.mime l.data) := by
  rw [ofText?, l.readInlineData_toText]

theorem dropWhile_toText (l : InlineLead) :
    l.toText.takeWhile isBlank = l.blanks ∧ l.toText.dropWhile isBlank = l.unindented :=
  longestRun_iff.2 ⟨rfl, l.isBlank_blanks, l.stopsAt_unindented⟩

theorem toText_injective : Function.Injective toText := by
  intro l l' h
  obtain ⟨hblanks, hunindented⟩ := l.dropWhile_toText
  obtain ⟨hblanks', hunindented'⟩ := l'.dropWhile_toText
  rw [h] at hblanks hunindented
  have hread := l.readInlineData_toText
  rw [h, l'.readInlineData_toText, Option.some.injEq, Prod.mk.injEq] at hread
  obtain ⟨hmime, hdata⟩ := hread
  have hrest : l.rest = l'.rest := by
    have hparts := hunindented.symm.trans hunindented'
    rw [unindented, unindented, hmime, hdata] at hparts
    simpa using hparts
  cases l
  cases l'
  simp_all

end InlineLead

theorem nodup_mimeExtensions :
    (mimeExtensions.map fun known => known.1.toList.map Char.toLower).Nodup := by
  decide +kernel

theorem extensionForMime_of_known {known : String × String} (hknown : known ∈ mimeExtensions)
    (h : equalIgnoringAsciiCase known.1.toList mime = true) :
    extensionForMime mime = known.2 := by
  rw [extensionForMime]
  split
  next found hfound =>
    have hmime := List.find?_some hfound
    rw [equalIgnoringAsciiCase, beq_iff_eq] at hmime h
    have hmem := List.mem_of_find?_eq_some hfound
    rw [List.inj_on_of_nodup_map nodup_mimeExtensions hmem hknown (hmime.trans h.symm)]
  next hnone =>
    exact absurd h (List.find?_eq_none.1 hnone known hknown)

theorem extensionForMime_of_unknown
    (h : ∀ known ∈ mimeExtensions, equalIgnoringAsciiCase known.1.toList mime = false) :
    extensionForMime mime = unknownExtension := by
  have hnone : (mimeExtensions.find? fun known => equalIgnoringAsciiCase known.1.toList mime) =
      none := by
    simpa using h
  rw [extensionForMime, hnone]

/-! ## The file -/

structure IsInlineFile (mime data : List Char) (a : Attachment) : Prop where
  source_eq : a.source = .inlineData (String.ofList mime) (String.ofList data)
  extension_of_known : ∀ known ∈ mimeExtensions,
    equalIgnoringAsciiCase known.1.toList mime = true → a.extension = known.2
  extension_of_unknown :
    (∀ known ∈ mimeExtensions, equalIgnoringAsciiCase known.1.toList mime = false) →
      a.extension = "FILE"
  filename_eq : a.filename = "file." ++ String.ofList (a.extension.toList.map Char.toLower)

theorem isInlineFile_ofInlineData (mime data : List Char) :
    IsInlineFile mime data (ofInlineData mime data) where
  source_eq := rfl
  extension_of_known _ := extensionForMime_of_known
  extension_of_unknown := extensionForMime_of_unknown
  filename_eq := rfl

theorem exists_inlineFile_iff {mime data : String} :
    (∃ a, ofText? text = some a ∧ a.source = .inlineData mime data) ↔
      ∃ l : InlineLead, l.toText = text ∧ String.ofList l.mime = mime ∧
        String.ofList l.data = data := by
  constructor
  · rintro ⟨a, ha, hsource⟩
    rw [ofText?] at ha
    split at ha
    next readMime readData hread =>
      obtain rfl := Option.some.inj ha
      obtain ⟨hmime, hdata⟩ := AttachmentSource.inlineData.inj hsource
      obtain ⟨l, hl, rfl, rfl⟩ := readInlineData_eq_some_iff.1 hread
      exact ⟨l, hl, hmime, hdata⟩
    next =>
      obtain ⟨url, -, hlink⟩ := List.exists_of_findSome?_eq_some ha
      rw [source_of_ofLink? hlink] at hsource
      cases hsource
  · rintro ⟨l, rfl, rfl, rfl⟩
    exact ⟨_, l.ofText?_toText, rfl⟩

/-- A text is a file by inline data exactly when it leads with the parts of some. It has these
parts in one way only, the data is the longest run of base64 there, and the answer hangs on
media type and data alone. -/
theorem ofText?_inlineData :
    (∀ text mime data, (∃ a, ofText? text = some a ∧ a.source = .inlineData mime data) ↔
      ∃ l : InlineLead, l.toText = text ∧ String.ofList l.mime = mime ∧
        String.ofList l.data = data) ∧
    (∀ l : InlineLead, ∃ a, ofText? l.toText = some a ∧ IsInlineFile l.mime l.data a) ∧
    (∀ l l' : InlineLead, l.toText = l'.toText → l = l') ∧
    (∀ (l : InlineLead) (more : List Char), more <+: l.data ++ l.rest →
      (∀ c ∈ more, isBase64Char c = true) → more <+: l.data) ∧
    (∀ l l' : InlineLead, l.mime = l'.mime → l.data = l'.data →
      ofText? l.toText = ofText? l'.toText) := by
  refine ⟨fun text mime data => exists_inlineFile_iff, fun l => ?_,
    fun l l' => (InlineLead.toText_injective ·), fun l more hmore hbase64 => ?_,
    fun l l' hmime hdata => ?_⟩
  · exact ⟨_, l.ofText?_toText, isInlineFile_ofInlineData l.mime l.data⟩
  · exact prefix_of_longestRun l.stopsAt_rest hbase64 hmore
  · rw [l.ofText?_toText, l'.ofText?_toText, hmime, hdata]

/-- Data behind an ideographic space, and a link to a file behind the data. -/
def pngLead : InlineLead where
  blanks := "\u3000\n".toList
  mime := "Image/PNG".toList
  data := "iVBORw0KGgo/AAANSUhE==".toList
  rest := ", http://a.b/c.pdf".toList
  isBlank_blanks := List.all_eq_true.1 (by decide +kernel)
  isMediaType := ⟨"Image".toList, "PNG".toList, by decide,
    ⟨by decide, List.all_eq_true.1 (by decide)⟩, by decide, List.all_eq_true.1 (by decide)⟩
  isBase64Char_data := List.all_eq_true.1 (by decide)
  minDataLength_le := by decide
  stopsAt_rest := stopsAt_cons (by decide) _

theorem ofText?_inlineData_png :
    ofText? "\u3000\ndata:Image/PNG;base64,iVBORw0KGgo/AAANSUhE==, http://a.b/c.pdf".toList =
      some ⟨"file.png", "PNG", .inlineData "Image/PNG" "iVBORw0KGgo/AAANSUhE=="⟩ := by
  obtain ⟨a, ha, hfile⟩ := ofText?_inlineData.2.1 pngLead
  have hextension : a.extension = "PNG" :=
    hfile.extension_of_known ("image/png", "PNG") (by decide) (by decide)
  have hfilename : a.filename = "file.png" := by
    rw [hfile.filename_eq, hextension]
    decide
  have hsource : a.source = .inlineData "Image/PNG" "iVBORw0KGgo/AAANSUhE==" := hfile.source_eq
  have htext : "\u3000\ndata:Image/PNG;base64,iVBORw0KGgo/AAANSUhE==, http://a.b/c.pdf".toList =
      pngLead.toText := by decide +kernel
  rw [htext, ha, ← hextension, ← hfilename, ← hsource]

end ChatTriage.Attachment
