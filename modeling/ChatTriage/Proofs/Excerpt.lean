import ChatTriage.Pattern.Compile
import ChatTriage.Proofs.PatternSearch

/-!
# Texts on lines of their own

A text may stand in a longer one, with a line feed in front of it and one behind. Where it
met the edge of the text before, it meets a line feed then. A line feed is no word
character, and a line starts behind one and ends before one, so that only an assertion
about the edge of the text itself can tell the two situations apart.
-/

namespace ChatTriage

/-- `text` stands in `whole` from position `offset` on, between two line feeds. -/
structure Excerpt (text whole : Array Char) (offset : Nat) : Prop where
  getElem? : ∀ i c, text[i]? = some c → whole[i + offset]? = some c
  lineFeed_before : charBefore whole offset = some '\n'
  lineFeed_after : whole[text.size + offset]? = some '\n'

def Text.quoted (before text after : List Char) : List Char :=
  before ++ '\n' :: text ++ '\n' :: after

theorem excerpt_quoted (before text after : List Char) :
    Excerpt text.toArray (Text.quoted before text after).toArray (before.length + 1) := by
  unfold Text.quoted
  refine ⟨fun i c hc => ?_, ?_, ?_⟩
  · rw [List.getElem?_toArray] at hc ⊢
    have hi : i < text.length := (List.getElem?_eq_some_iff.1 hc).1
    rw [List.append_assoc, List.getElem?_append_right (by omega),
      show i + (before.length + 1) - before.length = i + 1 by omega,
      List.cons_append, List.getElem?_cons_succ, List.getElem?_append_left hi]
    exact hc
  · change (before ++ '\n' :: text ++ '\n' :: after).toArray[before.length]? = _
    rw [List.getElem?_toArray, List.append_assoc,
      List.getElem?_append_right (Nat.le_refl _), Nat.sub_self]
    rfl
  · have hlength : (before ++ '\n' :: text).length = text.length + (before.length + 1) := by
      rw [List.length_append, List.length_cons]
      omega
    rw [List.getElem?_toArray, List.size_toArray,
      List.getElem?_append_right (Nat.le_of_eq hlength), hlength, Nat.sub_self]
    rfl

/-- The same neighbour, or a line feed where the text had its edge. -/
def SameNeighbour (inText inWhole : Option Char) : Prop :=
  inWhole = inText ∨ inText = none ∧ inWhole = some '\n'

namespace Excerpt

variable {text whole : Array Char} {offset i j : Nat}

theorem sameNeighbour_before (h : Excerpt text whole offset) (hi : i ≤ text.size) :
    SameNeighbour (charBefore text i) (charBefore whole (i + offset)) := by
  cases i with
  | zero =>
      rw [Nat.zero_add, h.lineFeed_before]
      exact .inr ⟨rfl, rfl⟩
  | succ i =>
      have hlt : i < text.size := hi
      have hc := Array.getElem?_eq_getElem hlt
      rw [Nat.add_right_comm]
      exact .inl ((h.getElem? i _ hc).trans hc.symm)

theorem sameNeighbour_after (h : Excerpt text whole offset) (hi : i ≤ text.size) :
    SameNeighbour text[i]? whole[i + offset]? := by
  rcases Nat.eq_or_lt_of_le hi with rfl | hlt
  · rw [h.lineFeed_after]
    exact .inr ⟨Array.getElem?_eq_none (Nat.le_refl _), rfl⟩
  · have hc := Array.getElem?_eq_getElem hlt
    exact .inl ((h.getElem? i _ hc).trans hc.symm)

end Excerpt

/-! ## Patterns that cannot tell -/

def Assertion.ignoresTextEdges (a : Assertion) : Bool :=
  a != .textStart && a != .textEnd

def Pattern.ignoresTextEdges : Pattern → Bool
  | empty | set _ => true
  | assertion a => a.ignoresTextEdges
  | seq p q | alt p q => p.ignoresTextEdges && q.ignoresTextEdges
  | star p | times p _ => p.ignoresTextEdges

theorem Assertion.holdsBetween_sameNeighbour {a : Assertion} {b b' c c' : Option Char}
    (ha : a.ignoresTextEdges = true) (hb : SameNeighbour b b') (hc : SameNeighbour c c')
    (h : a.holdsBetween b c = true) : a.holdsBetween b' c' = true := by
  have hword : Unicode.isWord '\n' = false := by decide
  rcases hb with rfl | ⟨rfl, rfl⟩ <;> rcases hc with rfl | ⟨rfl, rfl⟩ <;>
    cases a <;> simp_all [holdsBetween, ignoresTextEdges]

/-- A match in the text is a match at the same place of the excerpt. -/
theorem Matches.of_excerpt {text whole : Array Char} {offset i j : Nat} {p : Pattern}
    (hex : Excerpt text whole offset) (hp : p.ignoresTextEdges = true)
    (h : Matches text p i j) (hi : i ≤ text.size) :
    j ≤ text.size ∧ Matches whole p (i + offset) (j + offset) := by
  induction h with
  | empty => exact ⟨hi, .empty⟩
  | @set s i c hc hs =>
      have hlt : i < text.size := (Array.getElem?_eq_some_iff.1 hc).1
      refine ⟨hlt, ?_⟩
      rw [Nat.add_right_comm]
      exact .set (hex.getElem? i c hc) hs
  | assertion ha =>
      exact ⟨hi, .assertion (Assertion.holdsBetween_sameNeighbour hp
        (hex.sameNeighbour_before hi) (hex.sameNeighbour_after hi) ha)⟩
  | seq _ _ ihp ihq =>
      rw [Pattern.ignoresTextEdges, Bool.and_eq_true] at hp
      obtain ⟨hj, hpm⟩ := ihp hp.1 hi
      obtain ⟨hk, hqm⟩ := ihq hp.2 hj
      exact ⟨hk, .seq hpm hqm⟩
  | altLeft _ ih =>
      rw [Pattern.ignoresTextEdges, Bool.and_eq_true] at hp
      obtain ⟨hj, hm⟩ := ih hp.1 hi
      exact ⟨hj, .altLeft hm⟩
  | altRight _ ih =>
      rw [Pattern.ignoresTextEdges, Bool.and_eq_true] at hp
      obtain ⟨hj, hm⟩ := ih hp.2 hi
      exact ⟨hj, .altRight hm⟩
  | starNil => exact ⟨hi, .starNil⟩
  | starCons _ _ ihp ihs =>
      obtain ⟨hj, hpm⟩ := ihp hp hi
      obtain ⟨hk, hsm⟩ := ihs hp hj
      exact ⟨hk, .starCons hpm hsm⟩
  | timesZero => exact ⟨hi, .timesZero⟩
  | timesSucc _ _ ihp ihs =>
      obtain ⟨hj, hpm⟩ := ihp hp hi
      obtain ⟨hk, hsm⟩ := ihs hp hj
      exact ⟨hk, .timesSucc hpm hsm⟩

namespace Pattern

theorem occursIn_of_excerpt {text whole : Array Char} {offset : Nat} {p : Pattern}
    (hex : Excerpt text whole offset) (hp : p.ignoresTextEdges = true)
    (h : p.occursIn text = true) : p.occursIn whole = true := by
  obtain ⟨i, j, hi, hm⟩ := occursIn_iff.1 h
  obtain ⟨-, hm'⟩ := hm.of_excerpt hex hp hi
  refine occursIn_iff.2 ⟨i + offset, j + offset, ?_, hm'⟩
  have hlast := (Array.getElem?_eq_some_iff.1 hex.lineFeed_after).1
  omega

theorem countHits_le_of_excerpt {text whole : Array Char} {offset : Nat} {ps : List Pattern}
    (hex : Excerpt text whole offset) (hps : ∀ p ∈ ps, p.ignoresTextEdges = true) :
    countHits ps text ≤ countHits ps whole :=
  List.countP_mono_left fun p hp => occursIn_of_excerpt hex (hps p hp)

end Pattern

end ChatTriage
