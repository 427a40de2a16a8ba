import ChatTriage.Proofs.Classification
import ChatTriage.Proofs.CodeShape
import ChatTriage.Proofs.SignatureCatalog

/-!
# Quoted code

Code that is quoted on lines of its own, in a message that says something before it and
something behind it, remains code. The message shows every signature that the code shows
alone, and passes the gate if the code does.
-/

namespace ChatTriage

open Text

namespace SignatureTable

variable {t : SignatureTable} {text whole : List Char} {offset : Nat}

theorem countOf_scan_le_of_excerpt (hnodup : (t.sets.map (·.language)).Nodup)
    (hedges : ∀ s ∈ t.sets, ∀ p ∈ s.patterns, p.ignoresTextEdges = true)
    (hex : Excerpt text.toArray whole.toArray offset) (l : Language) :
    MatchCount.countOf (t.scan text) l ≤ MatchCount.countOf (t.scan whole) l := by
  rw [countOf_scan hnodup, countOf_scan hnodup]
  cases hfind : t.sets.find? (·.language == l) with
  | none => exact Nat.le_refl _
  | some s =>
      have hs : s ∈ t.sets := List.mem_of_find?_eq_some hfind
      exact Pattern.countHits_le_of_excerpt hex (hedges s hs)

theorem HasHit.of_excerpt (h : t.HasHit text)
    (hedges : ∀ s ∈ t.sets, ∀ p ∈ s.patterns, p.ignoresTextEdges = true)
    (hex : Excerpt text.toArray whole.toArray offset) : t.HasHit whole := by
  obtain ⟨s, hs, p, hp, hoccurs⟩ := h
  exact ⟨s, hs, p, hp, Pattern.occursIn_of_excerpt hex (hedges s hs p hp) hoccurs⟩

end SignatureTable

theorem CodeShape.passesGate_quoted {text : List Char} (h : PassesGate text)
    (before after : List Char) : PassesGate (quoted before text after) := by
  have hquoted : quoted before text after = (before ++ ['\n']) ++ (text ++ '\n' :: after) := by
    simp [Text.quoted]
  have hlines : IsWholeLines (before ++ ['\n']) := .inr ⟨before, rfl⟩
  rw [hquoted]
  refine ⟨trim_ne_nil_of_sublist ?_ h.1, looksLikeCode_append _ hlines h.2⟩
  exact (List.sublist_append_left text _).trans (List.sublist_append_right _ _)

namespace Classifier

/-- To quote code hides none of its signatures, and what was code in some language still
is, possibly in another. -/
theorem detect_quoted (before text after : List Char) :
    (∀ l, MatchCount.countOf (SignatureTable.builtin.scan text) l ≤
      MatchCount.countOf (SignatureTable.builtin.scan (quoted before text after)) l) ∧
    (∀ l, builtin.detect text = .code l →
      ∃ l', builtin.detect (quoted before text after) = .code l') := by
  have hex := excerpt_quoted before text after
  have hedges : ∀ s ∈ SignatureTable.builtin.sets, ∀ p ∈ s.patterns,
      p.ignoresTextEdges = true :=
    fun s hs p hp => SignatureTable.builtin_ignoresTextEdges hs hp
  refine ⟨SignatureTable.countOf_scan_le_of_excerpt
    SignatureTable.builtin_languages_nodup hedges hex, ?_⟩
  intro l hl
  obtain ⟨hgate, hhit⟩ := exists_code_iff.1 ⟨l, hl⟩
  exact exists_code_iff.2
    ⟨CodeShape.passesGate_quoted hgate before after, hhit.of_excerpt hedges hex⟩

theorem detect_quoted_prototype :
    ∃ l l', builtin.detect "{a.prototype.b}".toList = .code l ∧
      builtin.detect (quoted "see".toList "{a.prototype.b}".toList []) = .code l' := by
  have hgate : CodeShape.PassesGate "{a.prototype.b}".toList :=
    ⟨by decide +kernel, by decide +kernel⟩
  have hsource : r#"\.prototype\."# ∈ Signature.javaScript := by
    simp [Signature.javaScript]
  have hhit : SignatureTable.builtin.HasHit "{a.prototype.b}".toList :=
    SignatureTable.builtin_hasHit List.mem_cons_self hsource (by decide +kernel)
  obtain ⟨l, hl⟩ : ∃ l, builtin.detect "{a.prototype.b}".toList = .code l :=
    exists_code_iff.2 ⟨hgate, hhit⟩
  obtain ⟨l', hl'⟩ := (detect_quoted "see".toList "{a.prototype.b}".toList []).2 l hl
  exact ⟨l, l', hl, hl'⟩

end Classifier

end ChatTriage
