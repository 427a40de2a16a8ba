/-!
# Styled text

Text in spans, each with the attributes that a terminal shows it in. It can be shown
plain, or with the escape sequences of a colour terminal.
-/

namespace ChatTriage

inductive TextAttribute
  | bold
  | dim
  | underline
  | red
  | green
  | yellow
  | cyan
deriving DecidableEq, Repr

def TextAttribute.code : TextAttribute → List Char
  | bold => ['1']
  | dim => ['2']
  | underline => ['4']
  | red => ['3', '1']
  | green => ['3', '2']
  | yellow => ['3', '3']
  | cyan => ['3', '6']

/-- A stretch of text with the attributes it is shown in, if any. -/
structure TextSpan where
  text : List Char
  attributes : List TextAttribute
deriving DecidableEq, Repr

abbrev StyledText := List TextSpan

namespace TextSpan

def closing : List Char :=
  "\x1b[0m".toList

def opening (s : TextSpan) : List Char :=
  "\x1b[".toList ++ List.intercalate [';'] (s.attributes.map TextAttribute.code) ++ ['m']

/-- Text with the attributes started again wherever it ends them itself. -/
def reopen (opening : List Char) : List Char → List Char
  | '\x1b' :: '[' :: '0' :: 'm' :: cs => closing ++ opening ++ reopen opening cs
  | c :: cs => c :: reopen opening cs
  | [] => []

def colored (s : TextSpan) : List Char :=
  if s.attributes.isEmpty then s.text
  else s.opening ++ reopen s.opening s.text ++ closing

end TextSpan

namespace StyledText

def plain (t : StyledText) : List Char :=
  t.flatMap TextSpan.text

def colored (t : StyledText) : List Char :=
  t.flatMap TextSpan.colored

/-- The text without escape sequences: whatever stands from an escape character and a
bracket to the next `m` is left out. `inside` says that a sequence has begun. -/
def withoutEscapes (inside : Bool) : List Char → List Char
  | [] => []
  | '\x1b' :: '[' :: cs =>
    withoutEscapes true cs
  | c :: cs =>
    if inside then withoutEscapes (c != 'm') cs else c :: withoutEscapes false cs

def styled (attributes : List TextAttribute) (text : String) : StyledText :=
  [⟨text.toList, attributes⟩]

def unstyled (text : String) : StyledText :=
  styled [] text

end StyledText

end ChatTriage
