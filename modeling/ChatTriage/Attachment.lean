import ChatTriage.Link
import ChatTriage.Unicode.LetterCase

/-!
# File attachments

A message is a file when it leads with inline data in base64, or else when one of its
links is to a file of a known kind.
-/

namespace ChatTriage

open Unicode

inductive AttachmentSource
  | url (url : String)
  /-- The data in base64, without what introduces it. -/
  | inlineData (mime data : String)
deriving DecidableEq, Repr

structure Attachment where
  filename : String
  /-- In upper case. -/
  extension : String
  source : AttachmentSource
deriving DecidableEq, Repr

namespace Attachment

def unknownExtension : String :=
  "FILE"

def fileExtensions : List String :=
  ["pdf", "doc", "docx", "xls", "xlsx", "ppt", "pptx", "zip", "rar", "7z", "tar", "gz",
    "txt", "csv", "json", "xml", "jpg", "jpeg", "png", "gif", "svg", "webp", "mp4", "avi",
    "mov", "mp3", "wav", "ogg", "stl", "usdz"]

def mimeExtensions : List (String × String) :=
  [("application/pdf", "PDF"),
    ("application/msword", "DOC"),
    ("application/vnd.openxmlformats-officedocument.wordprocessingml.document", "DOCX"),
    ("application/vnd.ms-excel", "XLS"),
    ("application/vnd.openxmlformats-officedocument.spreadsheetml.sheet", "XLSX"),
    ("application/zip", "ZIP"),
    ("text/plain", "TXT"),
    ("text/csv", "CSV"),
    ("application/json", "JSON"),
    ("image/jpeg", "JPG"),
    ("image/png", "PNG"),
    ("image/gif", "GIF"),
    ("image/svg+xml", "SVG"),
    ("image/webp", "WEBP"),
    ("video/mp4", "MP4"),
    ("audio/mpeg", "MP3"),
    ("model/stl", "STL"),
    ("application/octet-stream", "STL"),
    ("model/vnd.usdz+zip", "USDZ"),
    ("model/usd", "USDZ")]

/-- The extension for a media type, whose ASCII case is ignored. -/
def extensionForMime (mime : List Char) : String :=
  match mimeExtensions.find? fun known => equalIgnoringAsciiCase known.1.toList mime with
  | some known => known.2
  | none => unknownExtension

/-! ## Inline data -/

def dropStart? (start text : List Char) : Option (List Char) :=
  if start.isPrefixOf text then some (text.drop start.length) else none

def isSubtypeChar (c : Char) : Bool :=
  c.isAlphanum || c == '.' || c == '+' || c == '-'

def isBase64Char (c : Char) : Bool :=
  c.isAlphanum || c == '+' || c == '/' || c == '='

/-- Shorter data is not taken for a file. -/
def minDataLength : Nat :=
  20

def readMime (text : List Char) : Option (List Char × List Char) :=
  let type := text.takeWhile Char.isAlphanum
  match text.dropWhile Char.isAlphanum with
  | '/' :: rest =>
    let subtype := rest.takeWhile isSubtypeChar
    if type.isEmpty || subtype.isEmpty then none
    else some (type ++ '/' :: subtype, rest.dropWhile isSubtypeChar)
  | _ => none

/-- The media type and the data at the head of a text, blanks in front aside. -/
def readInlineData (text : List Char) : Option (List Char × List Char) := do
  let text ← dropStart? "data:".toList (text.dropWhile isBlank)
  let (mime, text) ← readMime text
  let text ← dropStart? ";base64,".toList text
  let data := text.takeWhile isBase64Char
  if data.length < minDataLength then none else some (mime, data)

def ofInlineData (mime data : List Char) : Attachment :=
  let extension := extensionForMime mime
  { filename := "file." ++ String.ofList (extension.toList.map Char.toLower)
    extension := extension
    source := .inlineData (String.ofList mime) (String.ofList data) }

/-! ## Links to files -/

def upTo (isSeparator : Char → Bool) (text : List Char) : List Char :=
  text.takeWhile (!isSeparator ·)

def behindFirst? (isSeparator : Char → Bool) (text : List Char) : Option (List Char) :=
  match text.dropWhile (!isSeparator ·) with
  | [] => none
  | _ :: rest => some rest

/-- The text behind the last separator, or all of it. -/
def behindLast (isSeparator : Char → Bool) (text : List Char) : List Char :=
  (upTo isSeparator text.reverse).reverse

def behindWord? (word : List Char) : List Char → Option (List Char)
  | [] => dropStart? word []
  | c :: cs =>
    match dropStart? word (c :: cs) with
    | some rest => some rest
    | none => behindWord? word cs

def behindScheme (url : List Char) : List Char :=
  (behindWord? "://".toList url).getD url

/-- The last segment of the path of a link, without query and fragment. A link to a bare
host has no path. -/
def lastSegment? (url : List Char) : Option (List Char) :=
  (behindFirst? (· == '/') (behindScheme (upTo (fun c => c == '?' || c == '#') url))).map
    (behindLast (· == '/'))

/-- The file that a link is to, if its last segment ends in a dot and a known
extension. -/
def ofLink? (url : List Char) : Option Attachment := do
  let filename ← lastSegment? url
  if filename.contains '.' then
    let extension := behindLast (· == '.') filename
    if fileExtensions.any fun known => equalIgnoringAsciiCase known.toList extension then
      some
        { filename := String.ofList filename
          extension := String.ofList (extension.map Char.toUpper)
          source := .url (String.ofList url) }
    else
      none
  else
    none

/-- The file that a message is: inline data at its head before any link. -/
def ofText? (text : List Char) : Option Attachment :=
  match readInlineData text with
  | some (mime, data) => some (ofInlineData mime data)
  | none => (Link.extract text).findSome? ofLink?

end Attachment

end ChatTriage
