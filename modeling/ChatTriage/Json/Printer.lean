import ChatTriage.Json.Basic

/-!
# Printing JSON

Two layouts of the same text: on one line without blanks, or with every item and every
member on a line of its own, two blanks deeper than what holds it. Inside a string only
the quote, the backslash and the control characters below the blank are escaped.
-/

namespace ChatTriage

inductive JsonLayout
  | compact
  | pretty
deriving DecidableEq, Repr

namespace JsonLayout

/-- What stands between two lines, the second of them at the given depth. -/
def lineBreak : JsonLayout → (depth : Nat) → List Char
  | compact, _ => []
  | pretty, depth => '\n' :: List.replicate (2 * depth) ' '

def colon : JsonLayout → List Char
  | compact => [':']
  | pretty => [':', ' ']

end JsonLayout

namespace Json

def escape (c : Char) : List Char :=
  match c with
  | '"' => ['\\', '"']
  | '\\' => ['\\', '\\']
  | '\x08' => ['\\', 'b']
  | '\t' => ['\\', 't']
  | '\n' => ['\\', 'n']
  | '\x0c' => ['\\', 'f']
  | '\r' => ['\\', 'r']
  | c =>
    if c.toNat < 0x20 then
      ['\\', 'u', '0', '0', Nat.digitChar (c.toNat / 16), Nat.digitChar (c.toNat % 16)]
    else
      [c]

def printString (s : String) : List Char :=
  '"' :: s.toList.flatMap escape ++ ['"']

def printNumber : Int → List Char
  | .ofNat n => Nat.toDigits 10 n
  | .negSucc n => '-' :: Nat.toDigits 10 (n + 1)

mutual

def printAt (layout : JsonLayout) (depth : Nat) : Json → List Char
  | null => "null".toList
  | bool true => "true".toList
  | bool false => "false".toList
  | number n => printNumber n
  | string s => printString s
  | array [] => ['[', ']']
  | array (item :: items) =>
    '[' :: layout.lineBreak (depth + 1) ++ printAt layout (depth + 1) item ++
      printItems layout (depth + 1) items ++ layout.lineBreak depth ++ [']']
  | object [] => ['\x7b', '\x7d']
  | object ((key, value) :: members) =>
    '\x7b' :: layout.lineBreak (depth + 1) ++ printString key ++ layout.colon ++
      printAt layout (depth + 1) value ++ printMembers layout (depth + 1) members ++
      layout.lineBreak depth ++ ['\x7d']

/-- Further items, each behind a comma. -/
def printItems (layout : JsonLayout) (depth : Nat) : List Json → List Char
  | [] => []
  | item :: items =>
    ',' :: layout.lineBreak depth ++ printAt layout depth item ++ printItems layout depth items

def printMembers (layout : JsonLayout) (depth : Nat) : List (String × Json) → List Char
  | [] => []
  | (key, value) :: members =>
    ',' :: layout.lineBreak depth ++ printString key ++ layout.colon ++
      printAt layout depth value ++ printMembers layout depth members

end

def print (layout : JsonLayout) (j : Json) : List Char :=
  j.printAt layout 0

end Json

end ChatTriage
