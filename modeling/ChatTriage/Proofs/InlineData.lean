import ChatTriage.Attachment
import ChatTriage.Proofs.Text

/-!
# Reading inline data

Inline data is read from exactly the texts that lead with it: blanks, `data:`, a media type,
`;base64,` and enough characters of base64, all of which belong to the data. Each part of
the reader is described by one equivalence.
-/

namespace ChatTriage.Attachment

open Unicode Text

variable {text rest mime data : List Char}

theorem dropStart?_eq_some_iff {start : List Char} :
    dropStart? start text = some rest ↔ text = start ++ rest := by
  rw [dropStart?]
  constructor
  · intro h
    split_ifs at h with hstart
    obtain ⟨after, rfl⟩ := List.isPrefixOf_iff_prefix.1 hstart
    rw [List.drop_left] at h
    rw [Option.some.inj h]
  · rintro rfl
    rw [if_pos (List.isPrefixOf_iff_prefix.2 (List.prefix_append start rest)),
      List.drop_left]

def IsMediaType (mime : List Char) : Prop :=
  ∃ type subtype, mime = type ++ '/' :: subtype ∧
    (type ≠ [] ∧ ∀ c ∈ type, c.isAlphanum = true) ∧
    (subtype ≠ [] ∧ ∀ c ∈ subtype, isSubtypeChar c = true)

theorem stopsAt_slash (text : List Char) : StopsAt Char.isAlphanum ('/' :: text) := by
  rintro c ⟨⟩
  decide

theorem readMime_eq_some_iff :
    readMime text = some (mime, rest) ↔
      IsMediaType mime ∧ text = mime ++ rest ∧ StopsAt isSubtypeChar rest := by
  constructor
  · intro h
    rw [readMime] at h
    split at h
    next after hslash =>
      dsimp only at h
      split_ifs at h with hempty
      rw [Bool.or_eq_true, List.isEmpty_iff, List.isEmpty_iff, not_or] at hempty
      obtain ⟨rfl, rfl⟩ := Prod.mk.inj (Option.some.inj h)
      obtain ⟨htext, htype, -⟩ := longestRun_iff.1 ⟨rfl, hslash⟩
      obtain ⟨hafter, hsubtype, hstop⟩ := longestRun_iff.1 ⟨rfl, rfl⟩
      refine ⟨⟨_, _, rfl, ⟨hempty.1, htype⟩, hempty.2, hsubtype⟩, ?_, hstop⟩
      rw [List.append_assoc, List.cons_append, ← hafter]
      exact htext
    next => cases h
  · rintro ⟨⟨type, subtype, rfl, ⟨htype, htypes⟩, hsubtype, hsubtypes⟩, rfl, hstop⟩
    obtain ⟨htake, hdrop⟩ :=
      longestRun_iff.2 ⟨rfl, htypes, stopsAt_slash (subtype ++ rest)⟩
    obtain ⟨htake', hdrop'⟩ := longestRun_iff.2 ⟨rfl, hsubtypes, hstop⟩
    have hfull : (type.isEmpty || subtype.isEmpty) = false := by simp [htype, hsubtype]
    rw [readMime, List.append_assoc, List.cons_append, htake, hdrop]
    simp only [htake', hdrop', hfull, Bool.false_eq_true, if_false]

/-- A text that leads with inline data, in its parts. -/
structure InlineLead where
  blanks : List Char
  mime : List Char
  data : List Char
  rest : List Char
  isBlank_blanks : ∀ c ∈ blanks, isBlank c = true
  isMediaType : IsMediaType mime
  isBase64Char_data : ∀ c ∈ data, isBase64Char c = true
  minDataLength_le : minDataLength ≤ data.length
  stopsAt_rest : StopsAt isBase64Char rest

namespace InlineLead

def unindented (l : InlineLead) : List Char :=
  "data:".toList ++ (l.mime ++ (";base64,".toList ++ (l.data ++ l.rest)))

def toText (l : InlineLead) : List Char :=
  l.blanks ++ l.unindented

theorem stopsAt_unindented (l : InlineLead) : StopsAt isBlank l.unindented := by
  rintro c ⟨⟩
  decide

end InlineLead

/-- Inline data is read from a text exactly when the text leads with it. -/
theorem readInlineData_eq_some_iff :
    readInlineData text = some (mime, data) ↔
      ∃ l : InlineLead, l.toText = text ∧ l.mime = mime ∧ l.data = data := by
  constructor
  · intro h
    simp only [readInlineData, Option.bind_eq_bind, Option.bind_eq_some_iff] at h
    obtain ⟨afterName, hname, ⟨mime', afterMime⟩, hmime, afterEncoding, hencoding, h⟩ := h
    split_ifs at h with hshort
    obtain ⟨rfl, rfl⟩ := Prod.mk.inj (Option.some.inj h)
    obtain ⟨htext, hblanks, -⟩ :=
      longestRun_iff.1 ⟨rfl, dropStart?_eq_some_iff.1 hname⟩
    obtain ⟨htype, rfl, -⟩ := readMime_eq_some_iff.1 hmime
    obtain rfl := dropStart?_eq_some_iff.1 hencoding
    obtain ⟨hafter, hdata, hstop⟩ := longestRun_iff.1 ⟨rfl, rfl⟩
    refine ⟨⟨_, mime', _, _, hblanks, htype, hdata, by omega, hstop⟩, ?_, rfl, rfl⟩
    rw [InlineLead.toText, InlineLead.unindented]
    dsimp only
    rw [← hafter]
    exact htext.symm
  · rintro ⟨l, rfl, rfl, rfl⟩
    have hmime : StopsAt isSubtypeChar (";base64,".toList ++ (l.data ++ l.rest)) := by
      rintro c ⟨⟩
      decide
    obtain ⟨-, hdrop⟩ := longestRun_iff.2 ⟨rfl, l.isBlank_blanks, l.stopsAt_unindented⟩
    obtain ⟨htake, -⟩ := longestRun_iff.2 ⟨rfl, l.isBase64Char_data, l.stopsAt_rest⟩
    simp only [readInlineData, Option.bind_eq_bind, Option.bind_eq_some_iff]
    refine ⟨_, dropStart?_eq_some_iff.2 hdrop, (l.mime, _),
      readMime_eq_some_iff.2 ⟨l.isMediaType, rfl, hmime⟩, _,
      dropStart?_eq_some_iff.2 rfl, ?_⟩
    rw [htake, if_neg (Nat.not_lt.2 l.minDataLength_le)]

theorem readInlineData_eq_none_iff :
    readInlineData text = none ↔ ∀ l : InlineLead, l.toText ≠ text := by
  rw [Option.eq_none_iff_forall_ne_some]
  constructor
  · intro h l hl
    exact h (l.mime, l.data) (readInlineData_eq_some_iff.2 ⟨l, hl, rfl, rfl⟩)
  · rintro h ⟨mime, data⟩ hread
    obtain ⟨l, hl, -, -⟩ := readInlineData_eq_some_iff.1 hread
    exact h l hl

end ChatTriage.Attachment
