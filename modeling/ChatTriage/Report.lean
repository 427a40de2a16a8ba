import ChatTriage.Json.Printer
import ChatTriage.Report.Encoding
import ChatTriage.Report.Text

/-!
# Reports

A report holds a result in both forms, and a format picks one of them. Colour makes a
difference to text alone.
-/

namespace ChatTriage

inductive OutputFormat
  | text
  | json
  | jsonPretty
deriving DecidableEq, Repr

namespace OutputFormat

/-- Text, unless another format is asked for. -/
instance : Inhabited OutputFormat :=
  ⟨text⟩

def name : OutputFormat → String
  | text => "text"
  | json => "json"
  | jsonPretty => "json-pretty"

def all : List OutputFormat :=
  [text, json, jsonPretty]

def ofName? (name : String) : Option OutputFormat :=
  all.find? (·.name == name)

end OutputFormat

/-- A result in both forms. -/
structure Report where
  json : Json
  text : StyledText

structure LanguageEntry where
  language : Language
  patterns : Nat

def LanguageEntry.toJson (e : LanguageEntry) : Json :=
  .object [("language", e.language.toJson),
    ("highlighter", .string e.language.highlighterId), ("patterns", .count e.patterns)]

def LanguageEntry.toText (e : LanguageEntry) : StyledText :=
  .styled [.bold] (padRight nameWidth e.language.displayName) ++
    .unstyled (" " ++ padRight nameWidth e.language.highlighterId ++ " " ++
      decimal e.patterns ++ " patterns\n")

def Classifier.languageEntries (k : Classifier) : List LanguageEntry :=
  Language.all.map fun l => ⟨l, k.signatures.patternCount l⟩

namespace Report

def ofMessage (m : Message) : Report :=
  ⟨m.reportJson, m.toText⟩

def ofDetection (d : Detection) : Report :=
  ⟨d.toJson, d.toText⟩

def ofTrace (t : Trace) : Report :=
  ⟨t.toJson, t.toText⟩

def ofLinks (s : LinkSummary) : Report :=
  ⟨s.toJson, s.toText⟩

def ofAttachment (f : Option Attachment) : Report :=
  ⟨Attachment.optionToJson f, Attachment.optionToText f⟩

def ofLanguages (k : Classifier) : Report where
  json := .array (k.languageEntries.map LanguageEntry.toJson)
  text :=
    k.languageEntries.flatMap LanguageEntry.toText ++
      .unstyled ("\n" ++ decimal k.languageEntries.length ++ " languages, " ++
        decimal k.conflicts.size ++ " conflict rules\n")

def render (r : Report) (format : OutputFormat) (colored : Bool) : List Char :=
  match format with
  | .text => if colored then r.text.colored else r.text.plain
  | .json => r.json.print .compact
  | .jsonPretty => r.json.print .pretty

end Report

end ChatTriage
