import ChatTriage.Pattern.Basic

/-!
# Escapes

What a backslash makes of the character behind it, in a pattern and in a bracketed
class alike.
-/

namespace ChatTriage

inductive Escape
  | char (c : Char)
  | set (s : CharSet)
  | assertion (a : Assertion)

namespace Escape

/-- What may follow a backslash: a class, an assertion, a control character, or any
ASCII character but a letter or a digit, which then stands for itself. Characters by their
number and classes by a property are not read. -/
def ofChar? (c : Char) : Option Escape :=
  match c with
  | 'w' => some (set .word)
  | 'W' => some (set (.complement .word))
  | 'd' => some (set .digit)
  | 'D' => some (set (.complement .digit))
  | 's' => some (set .blank)
  | 'S' => some (set (.complement .blank))
  | 'b' => some (assertion .wordBoundary)
  | 'B' => some (assertion .noWordBoundary)
  | '<' => some (assertion .wordStart)
  | '>' => some (assertion .wordEnd)
  | 'A' => some (assertion .textStart)
  | 'z' => some (assertion .textEnd)
  | 'a' => some (char '\x07')
  | 't' => some (char '\t')
  | 'n' => some (char '\n')
  | 'v' => some (char '\x0b')
  | 'f' => some (char '\x0c')
  | 'r' => some (char '\r')
  | c => if c.toNat < 0x80 && !c.isAlphanum then some (char c) else none

end Escape

end ChatTriage
