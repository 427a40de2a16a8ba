import ChatTriage.Text

/-!
# Links

A link runs from `http://` or `https://` to the next blank, quote, backtick or angle
bracket, less the punctuation of the sentence around it. A link glued to an identifier
or an operator in the midst of code is part of the code and is not reported.
-/

namespace ChatTriage

open Unicode

/-- A link with all that stands before and after it in its text. -/
structure LinkOccurrence where
  /-- The characters before the link, nearest first. -/
  before : List Char
  url : List Char
  after : List Char
deriving DecidableEq, Repr

namespace Link

def isSeparator (c : Char) : Bool :=
  isBlank c || c == '"' || c == '\'' || c == '<' || c == '>' || c == '\x60'

def schemes : List (List Char) :=
  ["http://".toList, "https://".toList]

def startsHere (text : List Char) : Bool :=
  schemes.any fun s => s.isPrefixOf text &&
    match text.drop s.length with
    | c :: _ => !isSeparator c
    | [] => false

def isPunctuation (c : Char) : Bool :=
  c == '.' || c == ',' || c == ';' || c == ':' || c == '!' || c == '?'

/-- Drops punctuation from the head of a reversed link, and a closing parenthesis for as
long as the link closes more of them than it opens. -/
def trimReversed : List Char → List Char
  | [] => []
  | c :: cs =>
    if isPunctuation c then
      trimReversed cs
    else if c == ')' && (c :: cs).count '(' < (c :: cs).count ')' then
      trimReversed cs
    else
      c :: cs

def trim (url : List Char) : List Char :=
  (trimReversed url.reverse).reverse

/-- The links of a text from left to right, where `before` is what stands before it, and
the first `skip` characters of it belong to the last link found. -/
def occurrencesFrom (before : List Char) : (skip : Nat) → List Char → List LinkOccurrence
  | _, [] => []
  | skip + 1, c :: cs => occurrencesFrom (c :: before) skip cs
  | 0, c :: cs =>
    if startsHere (c :: cs) then
      let run := (c :: cs).takeWhile (!isSeparator ·)
      let url := trim run
      ⟨before, url, (c :: cs).drop url.length⟩ ::
        occurrencesFrom (c :: before) (run.length - 1) cs
    else
      occurrencesFrom (c :: before) 0 cs

def occurrences (text : List Char) : List LinkOccurrence :=
  occurrencesFrom [] 0 text

def extract (text : List Char) : List (List Char) :=
  (occurrences text).map (·.url)

/-! ## Context -/

def contextWidth : Nat :=
  10

def codeKeywords : List (List Char) :=
  ["function".toList, "const".toList, "let".toList, "var".toList, "class".toList,
    "public".toList, "private".toList, "protected".toList, "import".toList,
    "require".toList, "include".toList]

def isCodePunctuation (c : Char) : Bool :=
  c == '{' || c == '}' || c == '(' || c == ')' || c == ';'

/-- Whether a piece of text holds code punctuation, or a keyword as a word of its own. -/
def hasCodeToken (text : List Char) : Bool :=
  text.any isCodePunctuation || (Text.pieces (!isWord ·) text).any codeKeywords.contains

/-- Whether a link right behind the character is glued to it. -/
def isGluing (c : Char) : Bool :=
  isAlphanumeric c || c == '_' || c == '.' || c == '='

end Link

namespace LinkOccurrence

def window (o : LinkOccurrence) : List Char :=
  (o.before.take Link.contextWidth).reverse ++ o.url ++ o.after.take Link.contextWidth

def isInCode (o : LinkOccurrence) : Bool :=
  o.before.head?.any Link.isGluing && Link.hasCodeToken o.window

end LinkOccurrence

namespace Link

/-- The links of a text that are not part of code, in order, repetitions kept. -/
def find (text : List Char) : List (List Char) :=
  ((occurrences text).filter (!·.isInCode)).map (·.url)

end Link

inductive LinkSummary
  | none
  | single (url : String)
  | multiple (urls : List String)
deriving DecidableEq, Repr

namespace LinkSummary

def ofUrls : List String → LinkSummary
  | [] => none
  | [url] => single url
  | urls => multiple urls

def urls : LinkSummary → List String
  | none => []
  | single url => [url]
  | multiple urls => urls

def ofText (text : List Char) : LinkSummary :=
  ofUrls ((Link.find text).map String.ofList)

end LinkSummary

end ChatTriage
