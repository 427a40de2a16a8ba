import ChatTriage.Unicode.CodePointSet

/-!
# Characters as bytes

How UTF-8 writes intervals of characters as rows of byte ranges, and what such rows have
in common at their starts.
-/

namespace ChatTriage.Unicode

def utf8Bytes (cs : List Char) : List UInt8 :=
  (String.ofList cs).toUTF8.toList

structure ByteRange where
  low : Nat
  high : Nat
deriving DecidableEq, Repr

namespace ByteRange

def continuation : ByteRange :=
  ⟨0x80, 0xBF⟩

/-- The rows of byte ranges for the numbers from `low` to `high` when they are written
with `more` digits of six bits behind the first one; `mark` is added to the first digit,
and the mark of a continuation to the others. -/
def digitRows (mark : Nat) : (more low high : Nat) → List (List ByteRange)
  | 0, low, high => [[⟨mark + low, mark + high⟩]]
  | more + 1, low, high =>
    let unit := Nat.pow 64 (more + 1)
    let first := low / unit
    let last := high / unit
    let under (digit low high : Nat) : List (List ByteRange) :=
      (digitRows 0x80 more low high).map (⟨mark + digit, mark + digit⟩ :: ·)
    if first = last then
      under first (low % unit) (high % unit)
    else
      let start := if low % unit = 0 then first else first + 1
      let stop := if high % unit = unit - 1 then last + 1 else last
      (if start = first then [] else under first (low % unit) (unit - 1)) ++
        (if start < stop then
          [⟨mark + start, mark + stop - 1⟩ :: List.replicate (more + 1) continuation]
        else []) ++
        (if stop = last then under last 0 (high % unit) else [])

def rows : Nat × Nat → List (List ByteRange)
  | (low, high) =>
    [(0, 0x7F, 0, 0), (0x80, 0x7FF, 0xC0, 1), (0x800, 0xFFFF, 0xE0, 2),
      (0x10000, 0x10FFFF, 0xF0, 3)].flatMap fun (first, last, mark, more) =>
      if max low first ≤ min high last then
        digitRows mark more (max low first) (min high last)
      else []

end ByteRange

/-- Rows of byte ranges by their common starts: what may follow a first range, and the
rows that start otherwise. A row is over where nothing follows. -/
inductive ByteTree
  | nil
  | cons (first : ByteRange) (below others : ByteTree)

namespace ByteTree

def ofRow : List ByteRange → ByteTree
  | [] => nil
  | r :: row => cons r (ofRow row) nil

/-- Puts a row in front of others. It shares its start with the nearest of them only. -/
def putFirst : List ByteRange → ByteTree → ByteTree
  | [], t => t
  | row, nil => ofRow row
  | r :: row, cons first below others =>
    if r = first then cons first (putFirst row below) others
    else cons r (ofRow row) (cons first below others)

def ofRows (rows : List (List ByteRange)) : ByteTree :=
  rows.foldr putFirst nil

end ByteTree

end ChatTriage.Unicode
