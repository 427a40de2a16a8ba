import ChatTriage.Text

/-!
# Reading messages

Where the bytes of a message come from, why they may not be there, and how they become
text.
-/

namespace ChatTriage

inductive ReadFailure
  | notFound
  | notDirectory
  | isDirectory
  | nameTooLong
  /-- The path holds a character that no path may hold. -/
  | nulInName
  | invalidUtf8
  /-- Any other failure, in the words of the system. -/
  | system (text : String)
deriving DecidableEq, Repr

def ReadFailure.message : ReadFailure → String
  | notFound => "No such file or directory (os error 2)"
  | notDirectory => "Not a directory (os error 20)"
  | isDirectory => "Is a directory (os error 21)"
  | nameTooLong => "File name too long (os error 36)"
  | nulInName => "file name contained an unexpected NUL byte"
  | invalidUtf8 => "stream did not contain valid UTF-8"
  | system text => text

/-- The text that bytes encode in UTF-8. A byte order mark is a character of it. -/
def decodeText (bytes : ByteArray) : Except ReadFailure (List Char) :=
  match String.fromUTF8? bytes with
  | some text => .ok text.toList
  | none => .error .invalidUtf8

/-- The files of a folder that has no folder in it. -/
structure Folder where
  files : List (String × ByteArray)

namespace Folder

inductive Place
  | folder
  /-- A folder that nothing is known of. -/
  | outside
  | file (content : ByteArray)

def maxNameSize : Nat :=
  255

def maxPathSize : Nat :=
  4095

def enter (f : Folder) (place : Place) (name : String) : Except ReadFailure Place :=
  match place with
  | .file _ => .error .notDirectory
  | .outside =>
    if name == "" || name == "." || name == ".." then
      .ok .outside
    else if maxNameSize < name.utf8ByteSize then
      .error .nameTooLong
    else
      .error .notFound
  | .folder =>
    if name == "" || name == "." then
      .ok .folder
    else if name == ".." then
      .ok .outside
    else if maxNameSize < name.utf8ByteSize then
      .error .nameTooLong
    else
      match f.files.lookup name with
      | some content => .ok (.file content)
      | none => .error .notFound

/-- The place that a path leads to. The path itself is looked at before any name in it; a
path that starts with a slash leads outside. -/
def find (f : Folder) (path : String) : Except ReadFailure Place :=
  if path.toList.contains '\x00' then
    .error .nulInName
  else if maxPathSize < path.utf8ByteSize then
    .error .nameTooLong
  else
    let start : Place := if path.toList.head? == some '/' then .outside else .folder
    let names := (Text.pieces (· == '/') path.toList).map String.ofList
    names.foldlM f.enter start

def read (f : Folder) (path : String) : Except ReadFailure ByteArray := do
  match ← f.find path with
  | .file content => return content
  | .folder | .outside => .error .isDirectory

def readText (f : Folder) (path : String) : Except ReadFailure (List Char) := do
  decodeText (← f.read path)

end Folder

end ChatTriage
