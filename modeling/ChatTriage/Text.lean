import ChatTriage.Unicode.CharacterClass

/-!
# Cutting texts

Texts are lists of characters here: trimming, splitting and searching for a word.
-/

namespace ChatTriage.Text

open Unicode

def trimEnd (text : List Char) : List Char :=
  (text.reverse.dropWhile isBlank).reverse

def trim (text : List Char) : List Char :=
  trimEnd (text.dropWhile isBlank)

/-- The stretches between separators, empty ones included: always one more than there are
separators. -/
def pieces (isSeparator : Char → Bool) : List Char → List (List Char)
  | [] => [[]]
  | c :: cs =>
    if isSeparator c then
      [] :: pieces isSeparator cs
    else
      match pieces isSeparator cs with
      | [] => [[c]]
      | piece :: rest => (c :: piece) :: rest

def dropCarriageReturn (line : List Char) : List Char :=
  if line.getLast? == some '\r' then line.dropLast else line

/-- The lines without their line ends. A line feed at the end of the text starts no
further line, and a carriage return belongs to a line end only in front of a line feed. -/
def lines (text : List Char) : List (List Char) :=
  let all := pieces (· == '\n') text
  let ended := all.dropLast.map dropCarriageReturn
  match all.getLast? with
  | none | some [] => ended
  | some last => ended ++ [last]

/-- Whether the word occurs in the text, in the midst of other words or not. -/
def occurs (word : List Char) : List Char → Bool
  | [] => word.isEmpty
  | c :: cs => word.isPrefixOf (c :: cs) || occurs word cs

end ChatTriage.Text
