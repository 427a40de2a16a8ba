import ChatTriage.Message
import ChatTriage.Proofs.Classification
import ChatTriage.Proofs.CodeShape
import ChatTriage.Proofs.InlineData
import ChatTriage.Proofs.Link
import Mathlib.Data.List.Infix

/-!
# What decides the kind of a message

Each kind of message is told from the text by one condition: a file by the data or the link
that makes it one, code by the gate, the signatures and the shape, and what is left by the
number of its links. Where the text shows no sign of code, leads with no inline data and
starts no link, all three searches come back empty.
-/

namespace ChatTriage

namespace Classifier

variable {k : Classifier} {text : List Char} {l : Language}

def leader? (k : Classifier) (text : List Char) : Option Language :=
  (Candidate.winner (k.resolution text).remaining).map (·.language)

def IsCode (k : Classifier) (text : List Char) : Prop :=
  CodeShape.PassesGate text ∧
    (k.signatures.HasHit text ∨ CodeShape.hasCodeStructure text = true)

theorem detect_of_rejected (hgate : ¬ CodeShape.PassesGate text) :
    k.detect text = .notCode := by
  rw [detect, explain_of_rejected hgate]

theorem detect_of_no_hits (hgate : CodeShape.PassesGate text)
    (hhit : ¬ k.signatures.HasHit text) :
    k.detect text = if CodeShape.hasCodeStructure text then .unknownCode else .notCode := by
  have hscan : k.signatures.scan text = [] := by
    by_contra hscan
    exact hhit (SignatureTable.scan_ne_nil_iff.1 hscan)
  rw [detect, explain_of_no_hits hgate hscan]

theorem detect_of_hits (hgate : CodeShape.PassesGate text) (hhit : k.signatures.HasHit text) :
    ∃ l, k.leader? text = some l ∧ k.detect text = .code l := by
  have hscan := SignatureTable.scan_ne_nil_iff.2 hhit
  obtain ⟨w, hw, htrace⟩ := exists_winner_of_hits hscan
  refine ⟨w.language, ?_, ?_⟩
  · rw [leader?, hw]
    rfl
  · rw [detect, explain_of_hits hgate hscan, htrace]

theorem detect_eq_code_iff :
    k.detect text = .code l ↔
      CodeShape.PassesGate text ∧ k.signatures.HasHit text ∧ k.leader? text = some l := by
  by_cases hcode : CodeShape.PassesGate text ∧ k.signatures.HasHit text
  · obtain ⟨w, hw, hdetect⟩ := detect_of_hits hcode.1 hcode.2
    rw [hdetect, hw, ← and_assoc, and_iff_right hcode, Detection.code.injEq, Option.some.injEq]
  · refine iff_of_false ?_ fun h => hcode ⟨h.1, h.2.1⟩
    intro hdetect
    exact hcode (exists_code_iff.1 ⟨l, hdetect⟩)

theorem detect_eq_unknownCode_iff :
    k.detect text = .unknownCode ↔ CodeShape.PassesGate text ∧ ¬ k.signatures.HasHit text ∧
      CodeShape.hasCodeStructure text = true := by
  by_cases hgate : CodeShape.PassesGate text
  · rw [and_iff_right hgate]
    exact (passedTrace k hgate).unknown_iff
  · rw [detect_of_rejected hgate]
    simp [hgate]

theorem detect_eq_notCode_iff : k.detect text = .notCode ↔ ¬ k.IsCode text := by
  rw [IsCode]
  by_cases hgate : CodeShape.PassesGate text
  · by_cases hhit : k.signatures.HasHit text
    · obtain ⟨w, -, hdetect⟩ := detect_of_hits hgate hhit
      simp [hdetect, hgate, hhit]
    · rw [detect_of_no_hits hgate hhit]
      simp [hgate, hhit]
  · simp [detect_of_rejected hgate, hgate]

end Classifier

namespace Link

variable {text : List Char}

/-- Somewhere in the text a scheme has a character behind it that belongs to the link. -/
def HasStart (text : List Char) : Prop :=
  ∃ s ∈ schemes, ∃ c, isSeparator c = false ∧ s ++ [c] <:+: text

theorem hasStart_iff : HasStart text ↔ ∃ rest, rest <:+ text ∧ startsHere rest = true := by
  constructor
  · rintro ⟨s, hs, c, hc, passed, rest, rfl⟩
    refine ⟨s ++ c :: rest, ⟨passed, by simp⟩, startsHere_iff.2 ⟨s, hs, c, rest, hc, rfl⟩⟩
  · rintro ⟨rest, ⟨passed, rfl⟩, hstart⟩
    obtain ⟨s, hs, c, after, hc, rfl⟩ := startsHere_iff.1 hstart
    exact ⟨s, hs, c, hc, passed, after, by simp⟩

instance (text : List Char) : Decidable (HasStart text) :=
  decidable_of_iff (∃ rest ∈ text.tails, startsHere rest = true) <| by
    simp only [hasStart_iff, List.mem_tails]

theorem occurrences_of_not_hasStart (h : ¬ HasStart text) : occurrences text = [] := by
  apply occurrences_eq_nil
  rintro passed rest rfl
  by_contra hstart
  rw [Bool.not_eq_false] at hstart
  exact h (hasStart_iff.2 ⟨rest, List.suffix_append passed rest, hstart⟩)

end Link

/-! ## From the searches to the kind -/

namespace Message

variable {content : List Char} {d : Detection} {s : LinkSummary} {m : Message}
  {urls us : List String} {u : String} {f : Attachment} {l : Language}

theorem ofLinks_ne_code (s : LinkSummary) (o : Option Language) : ofLinks s ≠ .code o := by
  cases s <;> simp [ofLinks]

theorem ofLinks_eq_link_iff : ofLinks (.ofUrls urls) = .link u ↔ urls = [u] := by
  match urls with
  | [] | [_] | _ :: _ :: _ => simp [LinkSummary.ofUrls, ofLinks]

theorem ofLinks_eq_links_iff :
    ofLinks (.ofUrls urls) = .links us ↔ urls = us ∧ 2 ≤ us.length := by
  match urls with
  | [] | [_] =>
      refine iff_of_false (by simp [LinkSummary.ofUrls, ofLinks]) ?_
      rintro ⟨rfl, htwo⟩
      simp at htwo
  | _ :: _ :: _ =>
      rw [show ofLinks (.ofUrls _) = links _ from rfl, links.injEq, eq_comm]
      refine (and_iff_left_of_imp ?_).symm
      rintro rfl
      simp

theorem ofLinks_eq_text_iff : ofLinks (.ofUrls urls) = .text ↔ urls = [] := by
  match urls with
  | [] | [_] | _ :: _ :: _ => simp [LinkSummary.ofUrls, ofLinks]

theorem ofDetection_ne_file (d : Detection) (s : LinkSummary) (f : Attachment) :
    ofDetection d s ≠ .file f := by
  cases d <;> cases s <;> simp [ofDetection, ofLinks]

theorem ofDetection_eq_known_iff : ofDetection d s = .code (some l) ↔ d = .code l := by
  cases d <;> simp [ofDetection, ofLinks_ne_code]

theorem ofDetection_eq_unknown_iff : ofDetection d s = .code none ↔ d = .unknownCode := by
  cases d <;> simp [ofDetection, ofLinks_ne_code]

theorem ofDetection_eq_iff (hm : ∀ o, .code o ≠ m) :
    ofDetection d s = m ↔ d = .notCode ∧ ofLinks s = m := by
  cases d <;> simp [ofDetection, hm]

theorem ofText_eq_file_iff :
    ofText content = .file f ↔ Attachment.ofText? content = some f := by
  rw [ofText]
  cases Attachment.ofText? content with
  | some g => simp
  | none => simp [ofDetection_ne_file]

theorem ofText_eq_iff (hm : ∀ f, .file f ≠ m) :
    ofText content = m ↔ Attachment.ofText? content = none ∧
      ofDetection (Classifier.builtin.detect content) (.ofText content) = m := by
  rw [ofText]
  cases Attachment.ofText? content with
  | some g => simp [hm]
  | none => simp

theorem ofText_eq_known_iff :
    ofText content = .code (some l) ↔
      Attachment.ofText? content = none ∧ Classifier.builtin.detect content = .code l := by
  rw [ofText_eq_iff (by simp), ofDetection_eq_known_iff]

def IsPlain (content : List Char) : Prop :=
  Attachment.ofText? content = none ∧ ¬ Classifier.builtin.IsCode content

theorem ofText_eq_ofLinks_iff (hfile : ∀ f, .file f ≠ m) (hcode : ∀ o, .code o ≠ m) :
    ofText content = m ↔ IsPlain content ∧ ofLinks (.ofText content) = m := by
  rw [ofText_eq_iff hfile, ofDetection_eq_iff hcode, Classifier.detect_eq_notCode_iff,
    IsPlain, and_assoc]

/-- When a text is of which kind. -/
structure KindConditions (content : List Char) : Prop where
  file : ∀ f, ofText content = .file f ↔ Attachment.ofText? content = some f
  /-- Inline data makes a file of a text, whatever follows. -/
  inlineData : ∀ p : Attachment.InlineLead, p.toText = content →
    ofText content = .file (Attachment.ofInlineData p.mime p.data)
  known : (∃ l, ofText content = .code (some l)) ↔
    Attachment.ofText? content = none ∧ CodeShape.PassesGate content ∧
      SignatureTable.builtin.HasHit content
  language : ∀ l, ofText content = .code (some l) ↔
    Attachment.ofText? content = none ∧ CodeShape.PassesGate content ∧
      SignatureTable.builtin.HasHit content ∧ Classifier.builtin.leader? content = some l
  unknown : ofText content = .code none ↔
    Attachment.ofText? content = none ∧ CodeShape.PassesGate content ∧
      ¬ SignatureTable.builtin.HasHit content ∧ CodeShape.hasCodeStructure content = true
  link : ∀ u, ofText content = .link u ↔
    IsPlain content ∧ (Link.find content).map String.ofList = [u]
  links : ∀ us, ofText content = .links us ↔
    IsPlain content ∧ (Link.find content).map String.ofList = us ∧ 2 ≤ us.length
  text : ofText content = .text ↔ IsPlain content ∧ Link.find content = []

theorem kindConditions (content : List Char) : KindConditions content where
  file f := ofText_eq_file_iff
  inlineData p hp := by
    rw [ofText_eq_file_iff, Attachment.ofText?,
      Attachment.readInlineData_eq_some_iff.2 ⟨p, hp, rfl, rfl⟩]
  known := by
    rw [exists_congr fun l => ofText_eq_known_iff, exists_and_left, Classifier.exists_code_iff]
    rfl
  language l := by
    rw [ofText_eq_known_iff, Classifier.detect_eq_code_iff]
    rfl
  unknown := by
    rw [ofText_eq_iff (by simp), ofDetection_eq_unknown_iff,
      Classifier.detect_eq_unknownCode_iff]
    rfl
  link u := by
    rw [ofText_eq_ofLinks_iff (by simp) (by simp), LinkSummary.ofText, ofLinks_eq_link_iff]
  links us := by
    rw [ofText_eq_ofLinks_iff (by simp) (by simp), LinkSummary.ofText, ofLinks_eq_links_iff]
  text := by
    rw [ofText_eq_ofLinks_iff (by simp) (by simp), LinkSummary.ofText, ofLinks_eq_text_iff,
      List.map_eq_nil_iff]

theorem ofText_eq_text (hsign : Text.trim content = [] ∨ ¬ CodeShape.HasSign content)
    (hlead : ∀ p : Attachment.InlineLead, p.toText ≠ content)
    (hlink : ¬ Link.HasStart content) : ofText content = .text := by
  have hnone : Link.occurrences content = [] := Link.occurrences_of_not_hasStart hlink
  have hfile : Attachment.ofText? content = none := by
    rw [Attachment.ofText?, Attachment.readInlineData_eq_none_iff.2 hlead, Link.extract, hnone]
    rfl
  have hgate : ¬ CodeShape.PassesGate content := by
    rw [CodeShape.PassesGate, CodeShape.looksLikeCode_iff, not_and_or, not_not]
    exact hsign
  rw [(kindConditions content).text]
  refine ⟨⟨hfile, fun hcode => hgate hcode.1⟩, ?_⟩
  rw [Link.find, hnone]
  rfl

/-- A message is of exactly the kind that its text is due, and a text in which no search
can find anything is text. -/
theorem ofText_kind :
    (∀ content, KindConditions content) ∧
    ∀ content, (Text.trim content = [] ∨ ¬ CodeShape.HasSign content) →
      (∀ p : Attachment.InlineLead, p.toText ≠ content) → ¬ Link.HasStart content →
      ofText content = .text :=
  ⟨kindConditions, fun _ => ofText_eq_text⟩

/-- The second text nearly leads with data, nearly starts a link and nearly shows a sign of
code. -/
theorem ofText_kind_nearMisses :
    ofText "see https://a.b/c.".toList = .link "https://a.b/c" ∧
    ofText "data:image/png;base64,c2hvcnQ= http:// \x7b".toList = .text := by
  obtain ⟨hkinds, hplain⟩ := ofText_kind
  have hgate : CodeShape.looksLikeCode "see https://a.b/c.".toList = false := by decide +kernel
  constructor
  · refine ((hkinds _).link _).2 ⟨⟨?_, fun hcode => ?_⟩, ?_⟩
    · decide +kernel
    · exact Bool.false_ne_true (hgate.symm.trans hcode.1.2)
    · decide +kernel
  · refine hplain _ (.inr ?_) (Attachment.readInlineData_eq_none_iff.1 ?_) ?_
    all_goals decide +kernel

end Message

end ChatTriage
