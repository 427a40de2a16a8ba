import ChatTriage.Pattern.Shape
import ChatTriage.Unicode.Utf8

/-!
# Texts that matches start with

Some patterns match nothing but a few short texts, or start with one of those wherever
they match. Such a pattern is looked for by its texts alone and needs no automaton, so
the size of an automaton says nothing against it.

The texts are collected in the order in which a search would prefer them, and within
limits: when they would get too many, nothing is said of them any more.
-/

namespace ChatTriage

open Unicode

/-- A text that a match may start with, by the bytes that write it. -/
structure Literal where
  bytes : List UInt8
  /-- The match ends with the text; otherwise more may follow. -/
  isExact : Bool
deriving DecidableEq, Repr

namespace Literal

/-- The first `n` bytes. If that is not all, more may follow. -/
def keepFirst (n : Nat) (l : Literal) : Literal :=
  if l.bytes.length ≤ n then l else ⟨l.bytes.take n, false⟩

def append (l m : Literal) : Literal :=
  if l.isExact then ⟨l.bytes ++ m.bytes, m.isExact⟩ else l

/-- Neighbours with the same bytes become one text. -/
def mergeEqual (ls : List Literal) : List Literal :=
  ls.foldr (fun l found =>
    match found with
    | [] => [l]
    | m :: ms =>
      if l.bytes = m.bytes then ⟨l.bytes, l.isExact && m.isExact⟩ :: ms else l :: found) []

/-- Leaves out what starts with an earlier text, which would always be preferred to it. -/
def withoutExtensions (ls : List Literal) : List Literal :=
  ls.foldl (fun kept l =>
    if kept.any fun k => k.bytes.isPrefixOf l.bytes then kept else kept ++ [l]) []

def sharedStart : List UInt8 → List UInt8 → List UInt8
  | b :: bs, c :: cs => if b = c then b :: sharedStart bs cs else []
  | _, _ => []

def commonStart : List Literal → List UInt8
  | [] => []
  | l :: ls => ls.foldl (fun start m => sharedStart start m.bytes) l.bytes

def areExact (ls : List Literal) : Bool :=
  ls.all (·.isExact)

/-- Whether a text may well start with the byte by chance. Of the ASCII characters these
are frequent letters and digits, some marks, the space and the line ends. -/
def isFrequent (b : UInt8) : Bool :=
  0x80 ≤ b || "\n\r (),-./0129:_abcdefghilmnoprstuvxy|".toList.contains (Char.ofNat b.toNat)

def shorten : (steps : List (Nat × Nat)) → List Literal → List Literal
  | [], ls => ls
  | (length, few) :: steps, ls =>
    if ls.length ≤ few then ls
    else shorten steps (withoutExtensions (ls.map (keepFirst length)))

/-- Whether a search would look for whole texts. It rather looks for what several of them
start with, when that is rare or long enough, and for the starts of many texts, when few
of those are left and none is very short. -/
def areSoughtWhole (ls : List Literal) : Bool :=
  let several := 1 < ls.length
  let ls := withoutExtensions ls
  let start := commonStart ls
  let isRare := several && start.length ≤ 3 && start.head?.any (!isFrequent ·)
  let isLong := 4 < start.length || (1 < start.length && !(areExact ls && ls.length ≤ 16))
  if isRare then
    areExact (ls.map (keepFirst 1))
  else
    let ls := if isLong then mergeEqual (ls.map (keepFirst start.length)) else ls
    let starts := shorten [(5, 64), (4, 64), (3, 64), (2, 64), (1, 10)] ls
    areExact ls &&
      (areExact starts || starts.any (·.bytes.length ≤ 2) || 64 < starts.length)

end Literal

/-- The texts that matches start with, if there are not too many. -/
structure Literals where
  list? : Option (List Literal)

namespace Literals

def nothing : Literals :=
  ⟨some [⟨[], true⟩]⟩

def anything : Literals :=
  ⟨none⟩

def maxCount : Nat :=
  250

def maxLength : Nat :=
  100

def maxRepeat : Nat :=
  10

def maxCharacters : Nat :=
  10

def keepFirst (n : Nat) (s : Literals) : Literals :=
  ⟨s.list?.map (·.map (Literal.keepFirst n))⟩

def inexact (s : Literals) : Literals :=
  ⟨s.list?.map (·.map fun l => ⟨l.bytes, false⟩)⟩

def hasExact (s : Literals) : Bool :=
  s.list?.any (·.any (·.isExact))

def or (s t : Literals) : Literals :=
  let join (ls ms : List Literal) : Option (List Literal) :=
    if ls.length + ms.length ≤ maxCount then some (Literal.mergeEqual (ls ++ ms)) else none
  match s.list?, t.list? with
  | some ls, some ms =>
    let cut (ls : List Literal) := Literal.mergeEqual (ls.map (Literal.keepFirst 4))
    ⟨(join ls ms).or (join (cut ls) (cut ms))⟩
  | _, _ => anything

def andThen (s t : Literals) : Literals :=
  let unknown : Literals :=
    if s.list?.any (·.any (·.bytes.isEmpty)) then anything else s.inexact
  match s.list?, t.list? with
  | none, _ => anything
  | _, none => unknown
  | some ls, some ms =>
    if maxCount < ls.length * ms.length then unknown
    else
      let joined := ls.flatMap fun l => if l.isExact then ms.map l.append else [l]
      keepFirst maxLength ⟨some (Literal.mergeEqual joined)⟩

/-- The same part `n` times, as long as all texts of the rest are known. -/
def times (s : Literals) : (n : Nat) → Literals → Literals
  | 0, found => found
  | n + 1, found => if found.hasExact then times s n (found.andThen s) else found

def repeated (s : Literals) (low : Nat) (high : Option Nat) (isLazy : Bool) : Literals :=
  if low = 0 then
    let s := if high = some 1 then s else s.inexact
    if isLazy then nothing.or s else s.or nothing
  else
    let found := s.times (min low maxRepeat) nothing
    if high = some low && low ≤ maxRepeat then found else found.inexact

def ofSet (s : CodePointSet) : Literals :=
  let intervals := s.intervals
  if maxCharacters < intervals.foldl (fun n (low, high) => n + (high - low + 1)) 0 then
    anything
  else
    let characters := intervals.flatMap fun (low, high) =>
      (List.range (high - low + 1)).map fun n => Char.ofNat (low + n)
    ⟨some (characters.map fun c => ⟨utf8Bytes [c], true⟩)⟩

end Literals

namespace PatternShape

mutual

def literals : PatternShape → Literals
  | empty => .nothing
  | text cs => .keepFirst Literals.maxLength ⟨some [⟨utf8Bytes cs, true⟩]⟩
  | set s => .ofSet s
  | assertion _ => .nothing
  | repetition p low high isLazy => p.literals.repeated low high isLazy
  | group p => p.literals
  | row ps => literalsOfRow .nothing ps
  | choice ps => literalsOfChoice ⟨some []⟩ ps

def literalsOfRow (found : Literals) : List PatternShape → Literals
  | [] => found
  | p :: ps => if found.hasExact then literalsOfRow (found.andThen p.literals) ps else found

def literalsOfChoice (found : Literals) : List PatternShape → Literals
  | [] => found
  | p :: ps => literalsOfChoice (found.or p.literals) ps

end

mutual

def isPlain : PatternShape → Bool
  | assertion _ => false
  | group _ => false
  | repetition p _ _ _ => p.isPlain
  | row ps => arePlain ps
  | choice ps => arePlain ps
  | _ => true

def arePlain : List PatternShape → Bool
  | [] => true
  | p :: ps => p.isPlain && arePlain ps

end

/-- Whether a search would look for the texts of the pattern alone. A choice between very
many texts is always looked for in this way. -/
def isSoughtByText (p : PatternShape) : Bool :=
  let isLongChoice :=
    match p with
    | choice ps => 3000 ≤ ps.length && (ps.mapM text?).isSome
    | _ => false
  isLongChoice ||
    p.isPlain &&
      p.literals.list?.any fun ls =>
        !ls.isEmpty && !ls.any (·.bytes.isEmpty) && Literal.areSoughtWhole ls

end PatternShape

end ChatTriage
