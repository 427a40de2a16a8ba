import ChatTriage.Proofs.EscapeSequences
import ChatTriage.Proofs.JsonReading
import ChatTriage.Proofs.ReportText

/-!
# Colour

Colour changes nothing that a report says. Without its escape sequences the coloured text
is the plain one, padding included, and attributes end in the line that they start in. In
JSON there is no colour, and no escape character whatever the report is on.
-/

namespace ChatTriage

open Text StyledText Json

theorem isPlainLine_of_noControl {text : List Char} (h : NoControl text) : IsPlainLine text :=
  ⟨fun hescape => absurd (h _ hescape) (by decide),
    fun hfeed => absurd (h _ hfeed) (by decide)⟩

theorem noControl_decimal (n : Nat) : NoControl (decimal n).toList := by
  rw [decimal, String.toList_ofList]
  exact noControl_printNumber n

theorem noControl_displayName (l : Language) : NoControl l.displayName.toList := by
  cases l <;> decide

theorem noControl_highlighterId (l : Language) : NoControl l.highlighterId.toList := by
  cases l <;> decide

theorem noControl_caption (a : Affordance) : NoControl a.caption.toList := by
  cases a <;> decide

theorem noControl_padRight {text : String} (h : NoControl text.toList) (width : Nat) :
    NoControl (padRight width text).toList := by
  rw [padRight, String.toList_append, String.toList_ofList, noControl_append]
  refine ⟨h, fun c hc => ?_⟩
  rw [List.eq_of_mem_replicate hc]
  decide

theorem noControl_joinNames {names : List String} (h : ∀ n ∈ names, NoControl n.toList) :
    NoControl (joinNames names).toList := by
  rw [joinNames, String.toList_intercalate]
  apply forall_mem_intercalate
  · exact (by decide : NoControl ", ".toList)
  · rw [List.forall_mem_map]
    exact h

theorem escape_not_mem_of_noControl {text : List Char} (h : NoControl text) : '\x1b' ∉ text :=
  (isPlainLine_of_noControl h).1

@[simp] theorem escape_not_mem_decimal (n : Nat) : '\x1b' ∉ (decimal n).toList :=
  escape_not_mem_of_noControl (noControl_decimal n)

@[simp] theorem escape_not_mem_displayName (l : Language) : '\x1b' ∉ l.displayName.toList :=
  escape_not_mem_of_noControl (noControl_displayName l)

@[simp] theorem escape_not_mem_highlighterId (l : Language) :
    '\x1b' ∉ l.highlighterId.toList :=
  escape_not_mem_of_noControl (noControl_highlighterId l)

/-! ## Clean reports -/

theorem isClean_line {text : String} (h : IsPlainLine text.toList)
    (attributes : List TextAttribute) : IsClean (styled attributes text ++ unstyled "\n") :=
  isClean_append.2 ⟨isClean_styled h attributes, isClean_unstyled (by decide)⟩

theorem isClean_language (l : Language) (attributes : List TextAttribute) :
    IsClean (styled attributes l.displayName) :=
  isClean_styled (isPlainLine_of_noControl (noControl_displayName l)) attributes

theorem Detection.isClean_toText (d : Detection) : IsClean d.toText := by
  cases d with
  | notCode => exact isClean_line (by decide) _
  | unknownCode =>
      exact isClean_append.2 ⟨isClean_styled (by decide) _, isClean_unstyled (by decide)⟩
  | code l => exact isClean_append.2 ⟨isClean_language l _, isClean_unstyled (by simp)⟩

theorem MatchCount.isClean_toText (m : MatchCount) (c : Candidate) : IsClean (m.toText c) := by
  have hname := noControl_padRight (noControl_displayName m.language) nameWidth
  rw [toText, isClean_append, isClean_append]
  exact ⟨⟨isClean_unstyled (by decide), isClean_styled (isPlainLine_of_noControl hname) _⟩,
    isClean_unstyled (by simp)⟩

theorem Verdict.isClean_toText (v : Verdict) : IsClean v.toText := by
  cases v with
  | markers => exact isClean_unstyled (by decide)
  | tieBreak => exact isClean_styled (by decide) _
  | unresolved => exact isClean_styled (by decide) _

theorem isPlainLine_joinLanguages (ls : List Language) :
    IsPlainLine (joinNames (ls.map Language.displayName)).toList := by
  apply isPlainLine_of_noControl
  apply noControl_joinNames
  rw [List.forall_mem_map]
  exact fun l _ => noControl_displayName l

theorem RuleOutcome.isClean_toText (o : RuleOutcome) : IsClean o.toText := by
  rw [toText, isClean_append, isClean_append, isClean_append, isClean_append]
  exact ⟨⟨⟨⟨isClean_unstyled (by simp), o.verdict.isClean_toText⟩,
    isClean_unstyled (by decide)⟩, isClean_styled (isPlainLine_joinLanguages o.kept) _⟩,
    isClean_unstyled (by decide)⟩

namespace Trace

theorem isClean_gateText (t : Trace) : IsClean t.gateText := by
  rw [gateText, isClean_append, isClean_append]
  refine ⟨⟨isClean_unstyled (by decide), ?_⟩, isClean_unstyled (by decide)⟩
  split_ifs
  · exact isClean_styled (by decide) _
  · exact isClean_styled (by decide) _

theorem isClean_hitsText (t : Trace) : IsClean t.hitsText := by
  rw [hitsText]
  split_ifs
  · exact isClean_nil
  · rw [isClean_append, ← List.map_uncurry_zip_eq_zipWith, ← List.flatMap_def]
    exact ⟨isClean_unstyled (by decide), isClean_flatMap fun p _ => p.1.isClean_toText p.2⟩

theorem isClean_rulesText (t : Trace) : IsClean t.rulesText := by
  rw [rulesText]
  split_ifs
  · exact isClean_nil
  · exact isClean_append.2
      ⟨isClean_unstyled (by decide), isClean_flatMap fun o _ => o.isClean_toText⟩

theorem isClean_tiesText (t : Trace) : IsClean t.tiesText := by
  rw [tiesText]
  split_ifs
  · exact isClean_nil
  · have hties := (isPlainLine_joinLanguages t.ambiguous).1
    rw [isClean_append, isClean_append]
    exact ⟨⟨isClean_unstyled (by decide), isClean_styled (by decide) _⟩,
      isClean_unstyled (by simp [hties])⟩

theorem isClean_toText (t : Trace) : IsClean t.toText := by
  simp only [toText, isClean_append]
  exact ⟨⟨⟨⟨⟨t.isClean_gateText, t.isClean_hitsText⟩, t.isClean_rulesText⟩,
    t.isClean_tiesText⟩, isClean_unstyled (by decide)⟩, t.result.isClean_toText⟩

end Trace

theorem isClean_linkLine {indent url : String} (hindent : '\x1b' ∉ indent.toList)
    (hurl : IsPlainLine url.toList) : IsClean (linkLine indent url) := by
  rw [linkLine, isClean_append, isClean_append]
  exact ⟨⟨isClean_unstyled hindent, isClean_styled hurl _⟩, isClean_unstyled (by decide)⟩

theorem LinkSummary.isClean_toText {s : LinkSummary}
    (h : ∀ u ∈ s.urls, IsPlainLine u.toList) : IsClean s.toText := by
  rw [toText]
  split_ifs
  · exact isClean_line (by decide) _
  · exact isClean_flatMap fun u hu => isClean_linkLine (by decide) (h u hu)

def AttachmentSource.strings : AttachmentSource → List String
  | url address => [address]
  | inlineData mime data => [mime, data]

namespace Attachment

def strings (f : Attachment) : List String :=
  f.filename :: f.extension :: f.source.strings

theorem escape_not_mem_description {source : AttachmentSource}
    (h : ∀ s ∈ source.strings, IsPlainLine s.toList) : '\x1b' ∉ source.description.toList := by
  cases source with
  | url address => exact (h address List.mem_cons_self).1
  | inlineData mime data =>
      have hmime := (h mime List.mem_cons_self).1
      simp [AttachmentSource.description, hmime]

theorem isClean_toText {f : Attachment} (h : ∀ s ∈ f.strings, IsPlainLine s.toList) :
    IsClean f.toText := by
  rw [strings, List.forall_mem_cons, List.forall_mem_cons] at h
  obtain ⟨hfilename, hextension, hsource⟩ := h
  have hdescription := escape_not_mem_description hsource
  simp only [toText, isClean_append]
  exact ⟨⟨⟨⟨⟨⟨isClean_unstyled (by decide), isClean_styled hfilename _⟩,
    isClean_unstyled (by decide)⟩, isClean_styled hextension _⟩, isClean_unstyled (by decide)⟩,
    isClean_styled (by decide) _⟩, isClean_unstyled (by simp [hdescription])⟩

theorem isClean_optionToText {f : Option Attachment}
    (h : ∀ a ∈ f, ∀ s ∈ a.strings, IsPlainLine s.toList) : IsClean (optionToText f) := by
  cases f with
  | none => exact isClean_line (by decide) _
  | some a => exact isClean_toText (h a rfl)

end Attachment

namespace Message

def strings : Message → List String
  | file f => f.strings
  | link url => [url]
  | links urls => urls
  | code _ | text => []

theorem isClean_detailsText {m : Message} (h : ∀ s ∈ m.strings, IsPlainLine s.toList) :
    IsClean m.detailsText := by
  cases m with
  | file f => exact Attachment.isClean_toText h
  | code l =>
      cases l with
      | none =>
          rw [detailsText, isClean_append, isClean_append]
          exact ⟨⟨isClean_unstyled (by decide), isClean_styled (by decide) _⟩,
            isClean_unstyled (by decide)⟩
      | some l =>
          rw [detailsText, isClean_append, isClean_append]
          exact ⟨⟨isClean_unstyled (by decide), isClean_language l _⟩,
            isClean_unstyled (by simp)⟩
  | link url => exact isClean_linkLine (by decide) (h url List.mem_cons_self)
  | links urls => exact isClean_flatMap fun u hu => isClean_linkLine (by decide) (h u hu)
  | text => exact isClean_nil

theorem isClean_toText {m : Message} (h : ∀ s ∈ m.strings, IsPlainLine s.toList) :
    IsClean m.toText := by
  have hlabel : IsPlainLine m.label.toList := by
    cases m <;> (rw [label]; decide)
  have hcaptions : '\x1b' ∉ (joinNames (m.affordances.map Affordance.caption)).toList := by
    apply escape_not_mem_of_noControl
    apply noControl_joinNames
    rw [List.forall_mem_map]
    exact fun a _ => noControl_caption a
  simp only [toText, isClean_append]
  exact ⟨⟨⟨⟨⟨isClean_styled (by decide) _, isClean_unstyled (by decide)⟩,
    isClean_styled hlabel _⟩, isClean_unstyled (by decide)⟩, isClean_detailsText h⟩,
    isClean_unstyled (by simp [hcaptions])⟩

end Message

theorem LanguageEntry.isClean_toText (e : LanguageEntry) : IsClean e.toText := by
  have hname := noControl_padRight (noControl_displayName e.language) nameWidth
  have hid := noControl_padRight (noControl_highlighterId e.language) nameWidth
  refine isClean_append.2 ⟨isClean_styled (isPlainLine_of_noControl hname) _, ?_⟩
  exact isClean_unstyled (by simp [escape_not_mem_of_noControl hid])

namespace Report

theorem isClean_ofLanguages (k : Classifier) : IsClean (ofLanguages k).text :=
  isClean_append.2 ⟨isClean_flatMap fun e _ => e.isClean_toText, isClean_unstyled (by simp)⟩

/-! ## With and without colour -/

/-- Colour adds escape sequences to the text of the report and nothing else, and whatever
attributes it starts are ended in the same line. -/
structure ColoursOnly (r : Report) : Prop where
  withoutEscapes_eq : withoutEscapes false (r.render .text true) = r.render .text false
  endsInLine : EndsAttributesInLine (r.render .text true)

theorem coloursOnly_of_isClean {r : Report} (h : r.text.IsClean) : r.ColoursOnly :=
  ⟨withoutEscapes_colored h, endsAttributesInLine_colored h⟩

theorem escape_not_mem_print (j : Json) (layout : JsonLayout) : '\x1b' ∉ j.print layout := by
  intro hmem
  rcases onlyBreaks_printAt j 0 _ hmem with hc | ⟨depth, hc⟩
  · exact absurd hc (by decide)
  · exact absurd (isLayoutBlank_of_mem_lineBreak hc) (by decide)

/-- Colour never changes what a report says. -/
theorem colour_keepsContent :
    (∀ m : Message, (∀ s ∈ m.strings, IsPlainLine s.toList) → (ofMessage m).ColoursOnly) ∧
    (∀ d : Detection, (ofDetection d).ColoursOnly) ∧
    (∀ t : Trace, (ofTrace t).ColoursOnly) ∧
    (∀ s : LinkSummary, (∀ u ∈ s.urls, IsPlainLine u.toList) → (ofLinks s).ColoursOnly) ∧
    (∀ f : Option Attachment, (∀ a ∈ f, ∀ s ∈ a.strings, IsPlainLine s.toList) →
      (ofAttachment f).ColoursOnly) ∧
    (∀ k : Classifier, (ofLanguages k).ColoursOnly) ∧
    ∀ (r : Report) (format : OutputFormat), format ≠ .text →
      r.render format true = r.render format false ∧ '\x1b' ∉ r.render format true := by
  refine ⟨fun m h => coloursOnly_of_isClean (Message.isClean_toText h),
    fun d => coloursOnly_of_isClean d.isClean_toText,
    fun t => coloursOnly_of_isClean t.isClean_toText,
    fun s h => coloursOnly_of_isClean (LinkSummary.isClean_toText h),
    fun f h => coloursOnly_of_isClean (Attachment.isClean_optionToText h),
    fun k => coloursOnly_of_isClean (isClean_ofLanguages k), ?_⟩
  intro r format hformat
  cases format with
  | text => exact absurd rfl hformat
  | json => exact ⟨rfl, escape_not_mem_print r.json .compact⟩
  | jsonPretty => exact ⟨rfl, escape_not_mem_print r.json .pretty⟩

/-- What would belong to a sequence is text like any other without an escape character, and
so are tabs. JSON has no escape character even where a link has one. -/
theorem colour_keepsContent_brackets :
    (ofMessage (.links ["https://a.b/[0m", "https://a.b/\t"])).ColoursOnly ∧
    (ofLinks (.single "https://a.b/[31m")).ColoursOnly ∧
    (ofAttachment (some ⟨"m;1m.pdf", "PDF", .url "https://a.b/m;1m.pdf"⟩)).ColoursOnly ∧
    '\x1b' ∉ (ofLinks (.single "https://a.b/\x1b[31m\n")).render .jsonPretty true := by
  obtain ⟨hmessage, -, -, hlinks, hfile, -, hjson⟩ := colour_keepsContent
  have hurls : ∀ u ∈ LinkSummary.urls (.single "https://a.b/[31m"), IsPlainLine u.toList := by
    decide
  refine ⟨hmessage _ (by decide), hlinks _ hurls, hfile _ ?_, (hjson _ _ (by decide)).2⟩
  rintro a ⟨⟩
  decide

end Report

end ChatTriage
