import ChatTriage.Proofs.Link
import ChatTriage.Proofs.Text

/-!
# How far links extend

The links of a text are those of its pieces, where a text is cut at every character that
ends a link: a piece holds one link at most, from the first scheme with something behind it
to the end of the piece, less the punctuation at its end. So a character that ends a link
cuts the text into parts whose links do not depend on each other.
-/

namespace ChatTriage.Link

open Text Unicode

variable {text piece front rest u s cs : List Char} {c : Char}

theorem isBlank_eq_contains (c : Char) : isBlank c = whiteSpace.contains c := by
  have hascii : ∀ n < 0x80, isBlank (Char.ofNat n) = whiteSpace.contains (Char.ofNat n) := by
    decide +kernel
  by_cases hc : c.toNat < 0x80
  · rw [← Char.ofNat_toNat c]
    exact hascii c.toNat hc
  · rw [isBlank, if_neg hc]

theorem isSeparator_iff :
    isSeparator c = true ↔
      whiteSpace.contains c = true ∨ c ∈ ['"', '\'', '<', '>', '\x60'] := by
  rw [isSeparator, isBlank_eq_contains]
  simp [or_assoc]

/-! ## A piece -/

def SchemeHere (text : List Char) : Prop :=
  ∃ s ∈ schemes, ∃ c tail, text = s ++ c :: tail

theorem schemeHere_iff :
    SchemeHere text ↔
      (schemes.any fun s => s.isPrefixOf text && s.length < text.length) = true := by
  rw [SchemeHere, List.any_eq_true]
  refine exists_congr fun s => and_congr_right fun _ => ?_
  rw [Bool.and_eq_true, List.isPrefixOf_iff_prefix, decide_eq_true_eq]
  constructor
  · rintro ⟨c, tail, rfl⟩
    exact ⟨List.prefix_append s (c :: tail), by simp⟩
  · rintro ⟨⟨tail, rfl⟩, hlength⟩
    cases tail with
    | nil => simp at hlength
    | cons c tail => exact ⟨c, tail, rfl⟩

instance (text : List Char) : Decidable (SchemeHere text) :=
  decidable_of_iff' _ schemeHere_iff

/-- The link of a piece, from its first scheme on. -/
def ofPiece? : List Char → Option (List Char)
  | [] => none
  | c :: cs => if SchemeHere (c :: cs) then some (trim (c :: cs)) else ofPiece? cs

structure IsFirstScheme (piece front rest : List Char) : Prop where
  eq_append : piece = front ++ rest
  here : SchemeHere rest
  first : ∀ front' rest', piece = front' ++ rest' → SchemeHere rest' →
    front.length ≤ front'.length

theorem not_schemeHere_nil : ¬ SchemeHere [] := by decide

theorem isFirstScheme_cons_iff (h : ¬ SchemeHere (c :: cs)) :
    IsFirstScheme (c :: cs) front rest ↔
      ∃ front', front = c :: front' ∧ IsFirstScheme cs front' rest := by
  constructor
  · rintro ⟨hsplit, hhere, hfirst⟩
    cases front with
    | nil => exact absurd (hsplit ▸ hhere) h
    | cons d front =>
        obtain ⟨rfl, rfl⟩ := List.cons.inj hsplit
        refine ⟨front, rfl, rfl, hhere, fun front' rest' hsplit' hhere' => ?_⟩
        have hle := hfirst (c :: front') rest' (by rw [hsplit', List.cons_append]) hhere'
        simpa using hle
  · rintro ⟨front', rfl, hsplit, hhere, hfirst⟩
    refine ⟨by rw [hsplit, List.cons_append], hhere, fun front'' rest' hsplit' hhere' => ?_⟩
    cases front'' with
    | nil => exact absurd (hsplit' ▸ hhere') h
    | cons d front'' =>
        obtain ⟨-, hcs⟩ := List.cons.inj hsplit'
        have hle := hfirst front'' rest' hcs hhere'
        simpa using hle

theorem ofPiece?_eq_some_iff :
    ofPiece? piece = some u ↔ ∃ front rest, IsFirstScheme piece front rest ∧ trim rest = u := by
  induction piece with
  | nil =>
      refine iff_of_false (by simp [ofPiece?]) ?_
      rintro ⟨front, rest, ⟨hsplit, hhere, -⟩, -⟩
      rw [(List.append_eq_nil_iff.1 hsplit.symm).2] at hhere
      exact not_schemeHere_nil hhere
  | cons c cs ih =>
      rw [ofPiece?]
      split_ifs with h
      · rw [Option.some.injEq]
        constructor
        · rintro rfl
          exact ⟨[], c :: cs, ⟨rfl, h, fun _ _ _ _ => Nat.zero_le _⟩, rfl⟩
        · rintro ⟨front, rest, ⟨hsplit, -, hfirst⟩, rfl⟩
          have hle := hfirst [] (c :: cs) rfl h
          obtain rfl : front = [] := List.length_eq_zero_iff.1 (Nat.le_zero.1 hle)
          rw [hsplit, List.nil_append]
      · rw [ih]
        simp only [isFirstScheme_cons_iff h]
        constructor
        · rintro ⟨front, rest, hfirst, htrim⟩
          exact ⟨c :: front, rest, ⟨front, rfl, hfirst⟩, htrim⟩
        · rintro ⟨-, rest, ⟨front, rfl, hfirst⟩, htrim⟩
          exact ⟨front, rest, hfirst, htrim⟩

theorem ofPiece?_eq_none_iff :
    ofPiece? piece = none ↔ ∀ front rest, piece = front ++ rest → ¬ SchemeHere rest := by
  induction piece with
  | nil =>
      refine iff_of_true rfl fun front rest hsplit => ?_
      rw [(List.append_eq_nil_iff.1 hsplit.symm).2]
      exact not_schemeHere_nil
  | cons c cs ih =>
      rw [ofPiece?]
      split_ifs with h
      · exact iff_of_false (by simp) fun hnone => hnone [] (c :: cs) rfl h
      · rw [ih]
        constructor
        · intro hnone front rest hsplit
          cases front with
          | nil => exact fun hhere => h (hsplit ▸ hhere)
          | cons d front => exact hnone front rest (List.cons.inj hsplit).2
        · intro hnone front rest hsplit
          exact hnone (c :: front) rest (by rw [hsplit, List.cons_append])

theorem run_cons_separator (h : isSeparator c = true) (cs : List Char) :
    run (c :: cs) = [] := by
  rw [run, List.takeWhile_cons, h]
  rfl

theorem run_cons_inside (h : isSeparator c = false) (cs : List Char) :
    run (c :: cs) = c :: run cs := by
  rw [run, List.takeWhile_cons, h]
  rfl

theorem exists_pieces_eq_run (text : List Char) :
    ∃ others, pieces isSeparator text = run text :: others := by
  induction text with
  | nil => exact ⟨[], rfl⟩
  | cons c cs ih =>
      obtain ⟨others, hcs⟩ := ih
      cases hc : isSeparator c with
      | true => exact ⟨_, by rw [pieces_cons_separator hc, run_cons_separator hc]⟩
      | false => exact ⟨others, by rw [pieces_cons_inside hc hcs, run_cons_inside hc]⟩

theorem startsHere_iff_schemeHere : startsHere text = true ↔ SchemeHere (run text) := by
  rw [startsHere_iff]
  refine exists_congr fun s => and_congr_right fun hs => exists_congr fun c => ?_
  constructor
  · rintro ⟨rest, hc, rfl⟩
    refine ⟨run rest, ?_⟩
    rw [run_append (isSeparator_of_mem_scheme hs), run_cons_inside hc]
  · rintro ⟨tail, hrun⟩
    have hc : c ∈ run text := by
      rw [hrun]
      simp
    have happend : run text ++ text.dropWhile (!isSeparator ·) = text :=
      List.takeWhile_append_dropWhile
    rw [hrun, List.append_assoc, List.cons_append] at happend
    exact ⟨_, isSeparator_of_mem_run hc, happend.symm⟩

theorem urls_occurrencesFrom (text before : List Char) :
    (occurrencesFrom before 0 text).map (·.url) =
        (pieces isSeparator text).filterMap ofPiece? ∧
      (occurrencesFrom before (run text).length text).map (·.url) =
        (pieces isSeparator text).tail.filterMap ofPiece? := by
  induction text generalizing before with
  | nil => exact ⟨rfl, rfl⟩
  | cons c cs ih =>
      obtain ⟨others, hcs⟩ := exists_pieces_eq_run cs
      obtain ⟨hall, hrest⟩ := ih (c :: before)
      rw [hcs] at hall hrest
      cases hc : isSeparator c with
      | true =>
          have hrun := run_cons_separator hc cs
          have hstart : startsHere (c :: cs) = false := by
            rw [Bool.eq_false_iff, ne_eq, startsHere_iff_schemeHere, hrun]
            exact not_schemeHere_nil
          rw [hrun, List.length_nil, occurrencesFrom_of_no_start before hstart, hall,
            pieces_cons_separator hc, hcs]
          exact ⟨rfl, rfl⟩
      | false =>
          have hrun := run_cons_inside hc cs
          rw [pieces_cons_inside hc hcs, hrun, List.length_cons, occurrencesFrom]
          refine ⟨?_, hrest⟩
          rw [List.filterMap_cons, ofPiece?]
          cases hstart : startsHere (c :: cs) with
          | true =>
              have hhere := startsHere_iff_schemeHere.1 hstart
              rw [hrun] at hhere
              rw [occurrencesFrom_of_start before hstart, hrun, if_pos hhere, List.map_cons,
                List.length_cons, Nat.add_sub_cancel, hrest]
              rfl
          | false =>
              have hhere : ¬ SchemeHere (c :: run cs) := by
                rw [← hrun, ← startsHere_iff_schemeHere, hstart]
                exact Bool.false_ne_true
              rw [occurrencesFrom_of_no_start before hstart, if_neg hhere, hall,
                List.filterMap_cons]

theorem extract_eq_filterMap (text : List Char) :
    extract text = (pieces isSeparator text).filterMap ofPiece? :=
  (urls_occurrencesFrom text []).1

theorem extract_append_separator (before after : List Char) (h : isSeparator c = true) :
    extract (before ++ c :: after) = extract before ++ extract after := by
  rw [extract_eq_filterMap, extract_eq_filterMap, extract_eq_filterMap,
    pieces_append_separator isSeparator before after h, List.filterMap_append]

/-- The links of a text come from its pieces between white space, quotes, angle brackets and
backticks, each from the first scheme of a piece with something behind it to the end of the
piece, and trimmed. A character that cuts the text cuts the list of its links. -/
theorem extract_extent :
    (∀ c, isSeparator c = true ↔
      whiteSpace.contains c = true ∨ c ∈ ['"', '\'', '<', '>', '\x60']) ∧
    (∀ text, extract text = (pieces isSeparator text).filterMap ofPiece?) ∧
    (∀ piece u, ofPiece? piece = some u ↔
      ∃ front rest, IsFirstScheme piece front rest ∧ trim rest = u) ∧
    (∀ piece, ofPiece? piece = none ↔
      ∀ front rest, piece = front ++ rest → ¬ SchemeHere rest) ∧
    ∀ before c after, isSeparator c = true →
      extract (before ++ c :: after) = extract before ++ extract after :=
  ⟨fun _ => isSeparator_iff, extract_eq_filterMap, fun _ _ => ofPiece?_eq_some_iff,
    fun _ => ofPiece?_eq_none_iff, fun before _ after => extract_append_separator before after⟩

/-- A scheme inside a link starts no other one, and a scheme with nothing behind it none at
all. -/
theorem extract_extent_quoted :
    isSeparator '"' = true ∧
    extract ("(https://a.b/http://c).".toList ++ '"' :: "http://\"xhttp://d!".toList) =
      extract "(https://a.b/http://c).".toList ++ extract "http://\"xhttp://d!".toList ∧
    extract "(https://a.b/http://c).".toList ++ extract "http://\"xhttp://d!".toList =
      ["https://a.b/http://c".toList, "http://d".toList] := by
  obtain ⟨-, -, -, -, happend⟩ := extract_extent
  exact ⟨by decide, happend _ _ _ (by decide), by decide +kernel⟩

end ChatTriage.Link
