import ChatTriage.CommandLine.Arguments
import ChatTriage.Input

/-!
# Running a command

What the program prints and how it ends, for given arguments and given bytes to read.
-/

namespace ChatTriage

inductive RunError
  | unreadableFile (path : String) (cause : ReadFailure)
  | unreadableInput (cause : ReadFailure)
deriving DecidableEq, Repr

def RunError.message : RunError → String
  | unreadableFile path cause => "Failed to read file " ++ path ++ ": " ++ cause.message
  | unreadableInput cause => "IO error: " ++ cause.message

inductive Outcome
  | printed (text : String)
  | failed (e : RunError)
  /-- The arguments are not valid. -/
  | usage
deriving DecidableEq, Repr

namespace Outcome

def exitCode : Outcome → Nat
  | printed _ => 0
  | failed _ | usage => 2

def output : Outcome → String
  | printed text => text
  | failed _ | usage => ""

def errorOutput : Outcome → Option String
  | failed e => some ("Error: " ++ e.message ++ "\n")
  | printed _ | usage => none

end Outcome

def versionLine : String :=
  "codesniff 0.1.0\n"

def stdinPath : String :=
  "-"

inductive Source
  | nothing
  | input
  | file (path : String)
deriving DecidableEq, Repr

namespace Source

/-- The source at a path; without a path it is standard input. -/
def ofPath? : Option String → Source
  | none => input
  | some path => if path == stdinPath then input else file path

def readError : Source → ReadFailure → RunError
  | file path, cause => .unreadableFile path cause
  | nothing, cause | input, cause => .unreadableInput cause

def bytes (stdin : ByteArray) (folder : Folder) : Source → Except ReadFailure ByteArray
  | nothing => .ok .empty
  | input => .ok stdin
  | file path => folder.read path

end Source

namespace Command

def report (explain : Bool) (text : List Char) : Command → Report
  | classify => .ofMessage (.ofText text)
  | code =>
    let trace := Classifier.builtin.explain text
    if explain then .ofTrace trace else .ofDetection trace.result
  | urls => .ofLinks (.ofText text)
  | file => .ofAttachment (Attachment.ofText? text)
  | languages => .ofLanguages .builtin

end Command

namespace Outcome

/-- A rendered report as it is printed: without blanks at its end, and with one line
feed. -/
def ofRendering (rendering : List Char) : Outcome :=
  printed (String.ofList (Text.trimEnd rendering ++ ['\n']))

end Outcome

namespace Request

def source : Request → Source
  | version => .nothing
  | run command a => if command.takesPath then .ofPath? a.path else .nothing

def answer (r : Request) (bytes : Except ReadFailure ByteArray) : Outcome :=
  match r with
  | version => .printed versionLine
  | run command a =>
    match bytes.bind decodeText with
    | .ok text =>
      .ofRendering ((command.report a.explain text).render (a.format.getD default) false)
    | .error cause => .failed (r.source.readError cause)

end Request

/-- Runs the program with standard input and the files of the folder it runs in. -/
def runProgram (arguments : List String) (stdin : ByteArray) (folder : Folder) : Outcome :=
  match Request.parse arguments with
  | some r => r.answer (r.source.bytes stdin folder)
  | none => .usage

end ChatTriage
