import ChatTriage.Message
import ChatTriage.Json.Basic
import ChatTriage.Report.StyledText

/-!
# Results as text

The form of every result that people read. Every line ends in a line feed.
-/

namespace ChatTriage

open StyledText

def padRight (width : Nat) (text : String) : String :=
  text ++ String.ofList (List.replicate (width - text.length) ' ')

def joinNames (names : List String) : String :=
  ", ".intercalate names

def nameWidth : Nat :=
  12

/-- One line; a language is followed by its identifier. -/
def Detection.toText : Detection → StyledText
  | notCode => styled [.dim] "not code" ++ unstyled "\n"
  | unknownCode => styled [.bold, .yellow] "CODE" ++ unstyled " (unknown language)\n"
  | code l =>
    styled [.bold, .green] l.displayName ++ unstyled (" (" ++ l.highlighterId ++ ")\n")

def MatchCount.toText (m : MatchCount) (c : Candidate) : StyledText :=
  unstyled "    " ++ styled [.cyan] (padRight nameWidth m.language.displayName) ++
    unstyled (" " ++ decimal m.matched ++ " hits, weight " ++ decimal c.weight.toNat ++ "\n")

/-- A verdict that markers did not decide stands out. -/
def Verdict.toText : Verdict → StyledText
  | markers => unstyled "markers"
  | tieBreak => styled [.yellow] "tie-break"
  | unresolved => styled [.red] "unresolved"

def RuleOutcome.toText (o : RuleOutcome) : StyledText :=
  unstyled ("    " ++ o.a.displayName ++ " vs " ++ o.b.displayName ++ ": " ++
      decimal o.markersA ++ "-" ++ decimal o.markersB ++ " ") ++
    o.verdict.toText ++ unstyled " -> " ++
    styled [.bold] (joinNames (o.kept.map Language.displayName)) ++ unstyled "\n"

namespace Trace

def gateText (t : Trace) : StyledText :=
  unstyled "gate: " ++
    (if t.gatePassed then styled [.green] "passed" else styled [.red] "rejected") ++
    unstyled "\n"

def hitsText (t : Trace) : StyledText :=
  if t.matchCounts.isEmpty then []
  else
    unstyled "\n  Signature hits:\n" ++
      (List.zipWith MatchCount.toText t.matchCounts t.candidates).flatten

def rulesText (t : Trace) : StyledText :=
  if t.rules.isEmpty then []
  else unstyled "\n  Conflicts:\n" ++ t.rules.flatMap RuleOutcome.toText

def tiesText (t : Trace) : StyledText :=
  if t.ambiguous.isEmpty then []
  else
    unstyled "\n  " ++ styled [.yellow] "warning:" ++
      unstyled (" tied: " ++ joinNames (t.ambiguous.map Language.displayName) ++ "\n")

/-- The steps in order, an empty line, and the result. -/
def toText (t : Trace) : StyledText :=
  t.gateText ++ t.hitsText ++ t.rulesText ++ t.tiesText ++ unstyled "\n" ++ t.result.toText

end Trace

def linkLine (indent url : String) : StyledText :=
  unstyled indent ++ styled [.underline] url ++ unstyled "\n"

def LinkSummary.toText (s : LinkSummary) : StyledText :=
  if s.urls.isEmpty then styled [.dim] "no links" ++ unstyled "\n"
  else s.urls.flatMap (linkLine "")

def AttachmentSource.description : AttachmentSource → String
  | url address => address
  | inlineData mime data =>
    "inline " ++ mime ++ ", " ++ decimal data.utf8ByteSize ++ " base64 chars"

namespace Attachment

def toText (f : Attachment) : StyledText :=
  unstyled "  " ++ styled [.bold] f.filename ++ unstyled " [" ++
    styled [.cyan] f.extension ++ unstyled "]\n  " ++ styled [.dim] "from" ++
    unstyled (" " ++ f.source.description ++ "\n")

def optionToText : Option Attachment → StyledText
  | none => styled [.dim] "no file" ++ unstyled "\n"
  | some f => f.toText

end Attachment

namespace Message

def detailsText : Message → StyledText
  | file f => f.toText
  | code none => unstyled "  language: " ++ styled [.cyan] "CODE" ++ unstyled "\n"
  | code (some l) =>
    unstyled "  language: " ++ styled [.cyan] l.displayName ++
      unstyled ("\n  highlighter: " ++ l.highlighterId ++ "\n")
  | link url => linkLine "  " url
  | links urls => urls.flatMap (linkLine "  ")
  | text => []

def toText (m : Message) : StyledText :=
  styled [.dim] "kind:" ++ unstyled " " ++ styled [.bold] m.label ++ unstyled "\n" ++
    m.detailsText ++
    unstyled ("  actions: " ++ joinNames (m.affordances.map Affordance.caption) ++ "\n")

end Message

end ChatTriage
