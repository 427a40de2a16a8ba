import ChatTriage.Json.Basic
import ChatTriage.Message

/-!
# Results as JSON

The JSON form of every result. A value that is one of several kinds is an object that
leads with its kind.
-/

namespace ChatTriage

/-- An object that leads with its kind. -/
def Json.ofKind (kind : String) (members : List (String × Json)) : Json :=
  .object (("kind", .string kind) :: members)

def Language.toJson (l : Language) : Json :=
  .string l.jsonName

def Language.listToJson (ls : List Language) : Json :=
  .array (ls.map Language.toJson)

def MatchCount.toJson (m : MatchCount) : Json :=
  .object [("language", m.language.toJson), ("matched", .count m.matched)]

def Candidate.toJson (c : Candidate) : Json :=
  .object [("language", c.language.toJson), ("weight", .count c.weight.toNat)]

def Verdict.tag : Verdict → String
  | markers => "markers"
  | tieBreak => "tie_break"
  | unresolved => "unresolved"

def RuleOutcome.toJson (o : RuleOutcome) : Json :=
  .object [("a", o.a.toJson), ("b", o.b.toJson), ("markers_a", .count o.markersA),
    ("markers_b", .count o.markersB), ("verdict", .string o.verdict.tag),
    ("kept", Language.listToJson o.kept)]

def Resolution.toJson (r : Resolution) : Json :=
  .object [("remaining", .array (r.remaining.map Candidate.toJson)),
    ("applied", .array (r.applied.map RuleOutcome.toJson))]

def Detection.toJson : Detection → Json
  | notCode => .ofKind "not_code" []
  | unknownCode => .ofKind "unknown_code" []
  | code l => .ofKind "code" [("language", l.toJson)]

def Trace.toJson (t : Trace) : Json :=
  .object [("result", t.result.toJson), ("gate_passed", .bool t.gatePassed),
    ("matches", .array (t.matchCounts.map MatchCount.toJson)),
    ("candidates", .array (t.candidates.map Candidate.toJson)),
    ("rules", .array (t.rules.map RuleOutcome.toJson)),
    ("remaining", .array (t.remaining.map Candidate.toJson)),
    ("ambiguous", Language.listToJson t.ambiguous)]

def Json.ofStrings (texts : List String) : Json :=
  .array (texts.map .string)

/-- A single link stands by itself, several stand in an array. -/
def LinkSummary.toJson : LinkSummary → Json
  | none => .ofKind "no_url" []
  | single url => .ofKind "single" [("urls", .string url)]
  | multiple urls => .ofKind "multiple" [("urls", .ofStrings urls)]

def AttachmentSource.toJson : AttachmentSource → Json
  | url address => .ofKind "url" [("url", .string address)]
  | inlineData mime data =>
    .ofKind "inline_data" [("mime", .string mime), ("data", .string data)]

def Attachment.toJson (f : Attachment) : Json :=
  .object [("filename", .string f.filename), ("extension", .string f.extension),
    ("source", f.source.toJson)]

def Attachment.optionToJson : Option Attachment → Json
  | none => .ofKind "not_file" []
  | some f => .ofKind "file" [("file", f.toJson)]

def Affordance.tag : Affordance → String
  | download => "download"
  | copyCode => "copy_code"
  | openLink => "open"
  | copy => "copy"
  | forward => "forward"

namespace Message

def members : Message → List (String × Json)
  | file f => [("file", f.toJson)]
  | code l => [("language", .ofOption (l.map Language.toJson))]
  | link url => [("url", .string url)]
  | links urls => [("urls", .ofStrings urls)]
  | text => []

def toJson (m : Message) : Json :=
  .ofKind m.label m.members

/-- The same, with the actions on offer behind it. -/
def reportJson (m : Message) : Json :=
  .ofKind m.label
    (m.members ++ [("affordances", .ofStrings (m.affordances.map Affordance.tag))])

end Message

end ChatTriage
