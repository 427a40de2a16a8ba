import ChatTriage.CommandLine.Run

/-!
# The program

Reads the bytes that a request asks for and prints its outcome.
-/

namespace ChatTriage

/-- The cause behind an error of the system, whose code may come with either sign. -/
def ReadFailure.ofError : IO.Error → ReadFailure
  | .noFileOrDirectory .. => notFound
  | .permissionDenied .. => system "Permission denied (os error 13)"
  | e@(.inappropriateType _ code _) =>
    if code == 20 || code == -20 then notDirectory
    else if code == 21 || code == -21 then isDirectory
    else system (toString e)
  | e => system (toString e)

def Source.fetch : Source → IO (Except ReadFailure ByteArray)
  | nothing => return .ok .empty
  | input => return .ok (← (← IO.getStdin).readBinToEnd)
  | file path =>
    try
      return .ok (← IO.FS.readBinFile path)
    catch e =>
      return .error (.ofError e)

end ChatTriage

open ChatTriage

def main (arguments : List String) : IO UInt32 := do
  let outcome ←
    match Request.parse arguments with
    | some r => pure (r.answer (← r.source.fetch))
    | none => pure .usage
  (← IO.getStdout).putStr outcome.output
  if let some text := outcome.errorOutput then
    (← IO.getStderr).putStr text
  return outcome.exitCode.toUInt32
