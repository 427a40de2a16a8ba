import ChatTriage.Proofs.JsonReading
import ChatTriage.Report
import ChatTriage.Report.Decoding

/-!
# Reports without loss

The JSON of a report is read back as the result that was reported, whichever layout it was
printed in, so no two results look alike, and in the compact layout it stays on one line.
-/

namespace ChatTriage

namespace Json

variable {α : Type} {decode : Json → Option α}

def field? (key : String) (decode : Json → Option α) : Json → Option α
  | object members => (members.lookup key).bind decode
  | _ => none

def asString? : Json → Option String
  | string s => some s
  | _ => none

def asBool? : Json → Option Bool
  | bool b => some b
  | _ => none

def asCount? : Json → Option Nat
  | number (.ofNat n) => some n
  | _ => none

def asOption? (decode : Json → Option α) : Json → Option (Option α)
  | null => some none
  | j => (decode j).map some

def asList? (decode : Json → Option α) : Json → Option (List α)
  | array items => items.mapM decode
  | _ => none

@[simp] theorem field?_head (key : String) (j : Json) (members : List (String × Json)) :
    (object ((key, j) :: members)).field? key decode = decode j := by
  simp [field?]

@[simp] theorem field?_tail {key other : String} (h : key ≠ other) (j : Json)
    (members : List (String × Json)) :
    (object ((other, j) :: members)).field? key decode = (object members).field? key decode := by
  rw [field?, field?, List.lookup_cons, beq_false_of_ne h]

@[simp] theorem asString?_string (s : String) : asString? (string s) = some s :=
  rfl

@[simp] theorem asBool?_bool (b : Bool) : asBool? (bool b) = some b :=
  rfl

@[simp] theorem asCount?_count (n : Nat) : asCount? (count n) = some n :=
  rfl

theorem asList?_map {encode : α → Json} (h : ∀ x, decode (encode x) = some x) (xs : List α) :
    asList? decode (array (xs.map encode)) = some xs := by
  rw [asList?]
  induction xs with
  | nil => rfl
  | cons x xs ih => simp [List.mapM_cons, h, ih]

@[simp] theorem asList?_ofStrings (texts : List String) :
    asList? asString? (ofStrings texts) = some texts :=
  asList?_map asString?_string texts

end Json

open Json

/-! ## Results from JSON

One decoder for each form in which a result is printed, and that it undoes the printing. The
kind, where there is one, is looked at first; members that a decoder does not ask for are
passed over.
-/

def Language.ofJson? (j : Json) : Option Language :=
  (Language.ofJson j).toOption

@[simp] theorem Language.ofJson?_toJson (l : Language) : ofJson? l.toJson = some l := by
  cases l <;> decide

@[simp] theorem Language.listOfJson_listToJson (ls : List Language) :
    asList? Language.ofJson? (listToJson ls) = some ls :=
  asList?_map ofJson?_toJson ls

def MatchCount.ofJson? (j : Json) : Option MatchCount := do
  let language ← j.field? "language" Language.ofJson?
  let matched ← j.field? "matched" asCount?
  return ⟨language, matched⟩

@[simp] theorem MatchCount.ofJson?_toJson (m : MatchCount) : ofJson? m.toJson = some m := by
  simp [ofJson?, toJson]

def Candidate.weightOfJson? (j : Json) : Option UInt32 :=
  j.asCount?.bind fun n => if n < UInt32.size then some (UInt32.ofNat n) else none

def Candidate.ofJson? (j : Json) : Option Candidate := do
  let language ← j.field? "language" Language.ofJson?
  let weight ← j.field? "weight" weightOfJson?
  return ⟨language, weight⟩

@[simp] theorem Candidate.ofJson?_toJson (c : Candidate) : ofJson? c.toJson = some c := by
  have hweight : weightOfJson? (count c.weight.toNat) = some c.weight := by
    simp [weightOfJson?, c.weight.toNat_lt_size]
  simp [ofJson?, toJson, hweight]

def Verdict.ofTag? (tag : String) : Option Verdict :=
  [markers, tieBreak, unresolved].find? (·.tag == tag)

def Verdict.ofJson? (j : Json) : Option Verdict :=
  j.asString?.bind ofTag?

@[simp] theorem Verdict.ofJson?_tag (v : Verdict) : ofJson? (.string v.tag) = some v := by
  cases v <;> decide

def RuleOutcome.ofJson? (j : Json) : Option RuleOutcome := do
  let a ← j.field? "a" Language.ofJson?
  let b ← j.field? "b" Language.ofJson?
  let markersA ← j.field? "markers_a" asCount?
  let markersB ← j.field? "markers_b" asCount?
  let verdict ← j.field? "verdict" Verdict.ofJson?
  let kept ← j.field? "kept" (asList? Language.ofJson?)
  return ⟨a, b, markersA, markersB, verdict, kept⟩

@[simp] theorem RuleOutcome.ofJson?_toJson (o : RuleOutcome) : ofJson? o.toJson = some o := by
  simp [ofJson?, toJson]

def Detection.ofJson? (j : Json) : Option Detection := do
  match ← j.field? "kind" asString? with
  | "not_code" => return notCode
  | "unknown_code" => return unknownCode
  | "code" => return code (← j.field? "language" Language.ofJson?)
  | _ => none

@[simp] theorem Detection.ofJson?_toJson (d : Detection) : ofJson? d.toJson = some d := by
  cases d <;> simp [ofJson?, toJson, ofKind]

def Trace.ofJson? (j : Json) : Option Trace := do
  let result ← j.field? "result" Detection.ofJson?
  let gatePassed ← j.field? "gate_passed" asBool?
  let matchCounts ← j.field? "matches" (asList? MatchCount.ofJson?)
  let candidates ← j.field? "candidates" (asList? Candidate.ofJson?)
  let rules ← j.field? "rules" (asList? RuleOutcome.ofJson?)
  let remaining ← j.field? "remaining" (asList? Candidate.ofJson?)
  let ambiguous ← j.field? "ambiguous" (asList? Language.ofJson?)
  return ⟨result, gatePassed, matchCounts, candidates, rules, remaining, ambiguous⟩

@[simp] theorem Trace.ofJson?_toJson (t : Trace) : ofJson? t.toJson = some t := by
  simp [ofJson?, toJson, asList?_map MatchCount.ofJson?_toJson,
    asList?_map Candidate.ofJson?_toJson, asList?_map RuleOutcome.ofJson?_toJson]

def LinkSummary.ofJson? (j : Json) : Option LinkSummary := do
  match ← j.field? "kind" asString? with
  | "no_url" => return none
  | "single" => return single (← j.field? "urls" asString?)
  | "multiple" => return multiple (← j.field? "urls" (asList? asString?))
  | _ => Option.none

@[simp] theorem LinkSummary.ofJson?_toJson (s : LinkSummary) : ofJson? s.toJson = some s := by
  cases s <;> simp [ofJson?, toJson, ofKind]

def AttachmentSource.ofJson? (j : Json) : Option AttachmentSource := do
  match ← j.field? "kind" asString? with
  | "url" => return url (← j.field? "url" asString?)
  | "inline_data" =>
    return inlineData (← j.field? "mime" asString?) (← j.field? "data" asString?)
  | _ => none

@[simp] theorem AttachmentSource.ofJson?_toJson (s : AttachmentSource) :
    ofJson? s.toJson = some s := by
  cases s <;> simp [ofJson?, toJson, ofKind]

namespace Attachment

def ofJson? (j : Json) : Option Attachment := do
  let filename ← j.field? "filename" asString?
  let extension ← j.field? "extension" asString?
  let source ← j.field? "source" AttachmentSource.ofJson?
  return ⟨filename, extension, source⟩

@[simp] theorem ofJson?_toJson (f : Attachment) : ofJson? f.toJson = some f := by
  simp [ofJson?, toJson]

def optionOfJson? (j : Json) : Option (Option Attachment) := do
  match ← j.field? "kind" asString? with
  | "not_file" => return none
  | "file" => return some (← j.field? "file" ofJson?)
  | _ => none

@[simp] theorem optionOfJson?_optionToJson (f : Option Attachment) :
    optionOfJson? (optionToJson f) = some f := by
  cases f <;> simp [optionOfJson?, optionToJson, ofKind]

end Attachment

def Affordance.ofTag? (tag : String) : Option Affordance :=
  [download, copyCode, openLink, copy, forward].find? (·.tag == tag)

def Affordance.ofJson? (j : Json) : Option Affordance :=
  j.asString?.bind ofTag?

theorem Affordance.ofJson?_tag (a : Affordance) : ofJson? (.string a.tag) = some a := by
  cases a <;> decide

namespace Message

def ofJson? (j : Json) : Option Message := do
  match ← j.field? "kind" asString? with
  | "file" => return file (← j.field? "file" Attachment.ofJson?)
  | "code" => return code (← j.field? "language" (asOption? Language.ofJson?))
  | "link" => return link (← j.field? "url" asString?)
  | "links" => return links (← j.field? "urls" (asList? asString?))
  | "text" => return text
  | _ => none

theorem ofJson?_reportJson (m : Message) : ofJson? m.reportJson = some m := by
  have hlanguage : ∀ l : Option Language,
      asOption? Language.ofJson? (.ofOption (l.map Language.toJson)) = some l := by
    intro l
    cases l with
    | none => rfl
    | some l =>
        change (Language.ofJson? l.toJson).map some = some (some l)
        rw [Language.ofJson?_toJson, Option.map_some]
  cases m <;> simp [ofJson?, reportJson, members, label, ofKind, hlanguage]

def affordancesOfJson? : Json → Option (List Affordance) :=
  field? "affordances" (asList? Affordance.ofJson?)

theorem affordancesOfJson?_reportJson (m : Message) :
    affordancesOfJson? m.reportJson = some m.affordances := by
  have hactions : asList? Affordance.ofJson?
      (.ofStrings (m.affordances.map Affordance.tag)) = some m.affordances := by
    rw [ofStrings, List.map_map]
    exact asList?_map Affordance.ofJson?_tag m.affordances
  rw [affordancesOfJson?, reportJson]
  cases m <;> simp [members, ofKind, hactions]

theorem reportJson_eq (m : Message) :
    ∃ members, m.toJson = .object members ∧
      m.reportJson = .object
        (members ++ [("affordances", .ofStrings (m.affordances.map Affordance.tag))]) ∧
      (members.map Prod.fst ++ ["affordances"]).Nodup := by
  refine ⟨("kind", .string m.label) :: m.members, rfl, rfl, ?_⟩
  cases m <;> simp [members]

end Message

/-! ## Reports -/

namespace Report

/-- Nothing is lost of the results that are reported so. -/
structure IsLossless {α : Type} (report : α → Report) (decode : Json → Option α) : Prop where
  /-- What is printed is read as one and the same value in both layouts. -/
  parse_render : ∀ x format colored, format ≠ .text →
    parse? ((report x).render format colored) = some (report x).json
  /-- The result is decoded from that value. -/
  decode_json : ∀ x, decode (report x).json = some x
  /-- Different results are never printed alike. -/
  injective : ∀ x y format format' colored colored', format ≠ .text → format' ≠ .text →
    (report x).render format colored = (report y).render format' colored' → x = y
  /-- The compact layout is one line. -/
  oneLine : ∀ x colored, ∀ c ∈ (report x).render .json colored, 0x20 ≤ c.toNat

theorem render_of_ne_text {format : OutputFormat} (h : format ≠ .text) :
    ∃ layout, ∀ (r : Report) (colored : Bool), r.render format colored = r.json.print layout := by
  cases format with
  | text => exact absurd rfl h
  | json => exact ⟨.compact, fun _ _ => rfl⟩
  | jsonPretty => exact ⟨.pretty, fun _ _ => rfl⟩

/-- It is enough that the result is decoded from the value that is printed. -/
theorem IsLossless.of_decode {α : Type} {report : α → Report} {decode : Json → Option α}
    (h : ∀ x, decode (report x).json = some x) : IsLossless report decode where
  parse_render x format colored hformat := by
    obtain ⟨layout, hlayout⟩ := render_of_ne_text hformat
    rw [hlayout, parse?_print]
  decode_json := h
  injective x y format format' colored colored' hformat hformat' hsame := by
    obtain ⟨layout, hlayout⟩ := render_of_ne_text hformat
    obtain ⟨layout', hlayout'⟩ := render_of_ne_text hformat'
    rw [hlayout, hlayout'] at hsame
    have hdecode := h x
    rw [print_injective hsame, h y] at hdecode
    exact (Option.some.inj hdecode).symm
  oneLine x _ := noControl_print (report x).json

/-- Every report is read back from its JSON, and that of a message tells the actions on
offer along with the kind. -/
theorem isLossless_reports :
    IsLossless ofMessage Message.ofJson? ∧
    IsLossless ofDetection Detection.ofJson? ∧
    IsLossless ofTrace Trace.ofJson? ∧
    IsLossless ofLinks LinkSummary.ofJson? ∧
    IsLossless ofAttachment Attachment.optionOfJson? ∧
    ∀ m : Message,
      (∃ members, m.toJson = .object members ∧
        (ofMessage m).json = .object
          (members ++ [("affordances", .ofStrings (m.affordances.map Affordance.tag))]) ∧
        (members.map Prod.fst ++ ["affordances"]).Nodup) ∧
      Message.affordancesOfJson? (ofMessage m).json = some m.affordances :=
  ⟨.of_decode Message.ofJson?_reportJson, .of_decode Detection.ofJson?_toJson,
    .of_decode Trace.ofJson?_toJson, .of_decode LinkSummary.ofJson?_toJson,
    .of_decode Attachment.optionOfJson?_optionToJson,
    fun m => ⟨m.reportJson_eq, m.affordancesOfJson?_reportJson⟩⟩

end Report

end ChatTriage
