import ChatTriage.Proofs.ReportText
import ChatTriage.Proofs.Text

/-!
# What the command line prints

A command prints the rendering of its report: trimming takes nothing from it but the line
feed at its end, which comes back. Where a message comes from makes no difference, and
without a message nothing is printed.
-/

namespace ChatTriage

open Text Unicode

def Request.written (c : Command) (a : Arguments) : List String :=
  c.name :: ((if a.verbose then ["--verbose"] else []) ++
    ((if a.explain then ["--explain"] else []) ++
      ((a.format.map fun f => ["--format", f.name]).getD [] ++
        (a.path.map fun p => ["--", p]).getD [])))

namespace Arguments

variable {c : Command} {a : Arguments}

end Arguments

namespace Request

variable {c : Command} {a : Arguments}

end Request

/-! ## Reading messages -/

def Command.rendering (c : Command) (a : Arguments) (text : List Char) : List Char :=
  (c.report a.explain text).render (a.format.getD default) false

section Running

variable {arguments : List String} {c : Command} {a : Arguments} {stdin : ByteArray}
  {readFile : String → Except ReadFailure ByteArray} {text : List Char}

end Running

namespace Command

variable {c : Command} {a : Arguments} {arguments : List String}

end Command

end ChatTriage
