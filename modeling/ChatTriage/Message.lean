import ChatTriage.Attachment
import ChatTriage.Classifier
import ChatTriage.Link

/-!
# Messages

The one kind that a chat message is shown as: a file before code, code before links, and
plain text when it is none of them. A message that is code never reports its links.
-/

namespace ChatTriage

/-- What a user may do with a message. -/
inductive Affordance
  | download
  | copyCode
  | openLink
  | copy
  | forward
deriving DecidableEq, Repr

def Affordance.caption : Affordance → String
  | download => "download"
  | copyCode => "copy code"
  | openLink => "open"
  | copy => "copy"
  | forward => "forward"

inductive Message
  | file (f : Attachment)
  /-- Code; the language is missing when it is none of the catalog. -/
  | code (l : Option Language)
  | link (url : String)
  | links (urls : List String)
  | text
deriving DecidableEq, Repr

namespace Message

def affordances : Message → List Affordance
  | file _ => [.download]
  | code _ => [.copyCode]
  | link _ => [.openLink, .copy]
  | links _ => [.copy]
  | text => [.copy, .forward]

def label : Message → String
  | file _ => "file"
  | code _ => "code"
  | link _ => "link"
  | links _ => "links"
  | text => "text"

def header : Message → Option String
  | file f => some f.extension
  | code (some l) => some l.displayName
  | code none => some "CODE"
  | link _ | links _ => some "URL"
  | text => none

def highlighterId : Message → Option String
  | code (some l) => some l.highlighterId
  | _ => none

def ofLinks : LinkSummary → Message
  | .none => text
  | .single url => link url
  | .multiple urls => links urls

/-- The kind of a message that is no file. -/
def ofDetection (d : Detection) (summary : LinkSummary) : Message :=
  match d with
  | .code l => code (some l)
  | .unknownCode => code none
  | .notCode => ofLinks summary

def ofText (content : List Char) : Message :=
  match Attachment.ofText? content with
  | some f => file f
  | none => ofDetection (Classifier.builtin.detect content) (.ofText content)

end Message

end ChatTriage
