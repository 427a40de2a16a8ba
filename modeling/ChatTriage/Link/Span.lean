import ChatTriage.Link

/-!
# Links by their bytes

Where links stand in the UTF-8 encoding of their text, and the look at what surrounds them
in terms of such positions. To slice a text at a position inside one of its characters, or
behind its end, fails.
-/

namespace ChatTriage

namespace Text

def byteLength : List Char → Nat
  | [] => 0
  | c :: cs => c.utf8Size + byteLength cs

/-- The text up to a byte position and the text from there on. -/
def splitAtByte? : (position : Nat) → List Char → Option (List Char × List Char)
  | 0, text => some ([], text)
  | _ + 1, [] => none
  | position + 1, c :: cs =>
    if c.utf8Size ≤ position + 1 then
      (splitAtByte? (position + 1 - c.utf8Size) cs).map fun parts => (c :: parts.1, parts.2)
    else
      none

def slice? (text : List Char) (start stop : Nat) : Option (List Char) := do
  let upToStop ← splitAtByte? stop text
  let fromStart ← splitAtByte? start upToStop.1
  pure fromStart.2

/-- The byte positions at which the characters of a text start, where the text itself starts
at `position`. -/
def startsFrom (position : Nat) : List Char → List Nat
  | [] => []
  | c :: cs => position :: startsFrom (position + c.utf8Size) cs

end Text

structure LinkSpan where
  start : Nat
  stop : Nat
deriving DecidableEq, Repr

def LinkOccurrence.span (o : LinkOccurrence) : LinkSpan where
  start := Text.byteLength o.before
  stop := Text.byteLength o.before + Text.byteLength o.url

namespace Link

open Text

/-- All links of a text in order, unless trimming has left nothing of one. -/
def spans (text : List Char) : List LinkSpan :=
  ((occurrences text).map (·.span)).filter fun s => s.start < s.stop

/-- Where the window around a link starts: at the tenth character from the link on
backwards, or at the head of a text that has fewer. -/
def windowStart? (text : List Char) (start : Nat) : Option Nat := do
  let front ← slice? text 0 start
  pure (((startsFrom 0 front).reverse[contextWidth - 1]?).getD 0)

/-- Where the window around a link stops: in front of the eleventh character behind the
link, or at the end of a text that has fewer. -/
def windowStop? (text : List Char) (stop : Nat) : Option Nat := do
  let rest ← slice? text stop (byteLength text)
  pure (((startsFrom 0 rest)[contextWidth]?).elim (byteLength text) (stop + ·))

def window? (text : List Char) (s : LinkSpan) : Option (List Char) := do
  let low ← windowStart? text s.start
  let high ← windowStop? text s.stop
  slice? text low high

def isInCodeAt? (text : List Char) (s : LinkSpan) : Option Bool := do
  let front ← slice? text 0 s.start
  match front.getLast? with
  | none => pure false
  | some c =>
    if isGluing c then
      let window ← window? text s
      pure (hasCodeToken window)
    else
      pure false

def findAmong? (text : List Char) : List LinkSpan → Option (List (List Char))
  | [] => some []
  | s :: spans => do
    let inCode ← isInCodeAt? text s
    let others ← findAmong? text spans
    if inCode then
      pure others
    else
      let url ← slice? text s.start s.stop
      pure (url :: others)

end Link

end ChatTriage
