import ChatTriage.Pattern.Tree

/-!
# Shapes of patterns

What is left of a written pattern when all that makes no difference to a search is gone:
text runs together, rows and choices do not stand directly in their own kind, a choice
between characters is a set of characters, and what all alternatives start with stands in
front of their choice.

Every shape is built by the functions of this module, each of which takes shapes in this
form to a shape in this form.
-/

namespace ChatTriage

open Unicode

/-- What a pattern asks for, without the accidents of its written form. -/
inductive PatternShape
  | empty
  /-- One character or more, as they stand. -/
  | text (cs : List Char)
  /-- Any character of a set that has none or several. -/
  | set (s : CodePointSet)
  | assertion (a : Assertion)
  | repetition (p : PatternShape) (low : Nat) (high : Option Nat) (isLazy : Bool)
  /-- A group that captures what it matches. -/
  | group (p : PatternShape)
  /-- Two parts or more in a row. -/
  | row (ps : List PatternShape)
  /-- Two alternatives or more. -/
  | choice (ps : List PatternShape)

namespace PatternShape

mutual

/-- Whether two shapes are the same. A group is only the same as itself, and so unlike
any group at another place. -/
def alike : PatternShape → PatternShape → Bool
  | empty, empty => true
  | text cs, text ds => cs == ds
  | set s, set t => s.boundaries == t.boundaries
  | assertion a, assertion b => a == b
  | repetition p low high isLazy, repetition q low' high' isLazy' =>
    low == low' && high == high' && isLazy == isLazy' && p.alike q
  | row ps, row qs => allAlike ps qs
  | choice ps, choice qs => allAlike ps qs
  | _, _ => false

def allAlike : List PatternShape → List PatternShape → Bool
  | [], [] => true
  | p :: ps, q :: qs => p.alike q && allAlike ps qs
  | _, _ => false

end

def sharedStart : List PatternShape → List PatternShape → List PatternShape
  | p :: ps, q :: qs => if p.alike q then p :: sharedStart ps qs else []
  | _, _ => []

mutual

def size : PatternShape → Nat
  | repetition p _ _ _ => p.size + 1
  | group p => p.size + 1
  | row ps => sizeOfAll ps + 1
  | choice ps => sizeOfAll ps + 1
  | _ => 1

def sizeOfAll : List PatternShape → Nat
  | [] => 0
  | p :: ps => p.size + sizeOfAll ps

end

/-! ## Length of matches -/

mutual

/-- The length of the shortest match; there is none when a part matches nothing at all. -/
def minLength : PatternShape → Option Nat
  | empty => some 0
  | text cs => some cs.length
  | set s => if s.boundaries.isEmpty then none else some 1
  | assertion _ => some 0
  | repetition p low _ _ => p.minLength.map (low * ·)
  | group p => p.minLength
  | row ps => minLengthOfRow ps
  | choice ps => minLengthOfChoice ps

def minLengthOfRow : List PatternShape → Option Nat
  | [] => some 0
  | p :: ps => p.minLength.bind fun m => (minLengthOfRow ps).map (m + ·)

def minLengthOfChoice : List PatternShape → Option Nat
  | [] => none
  | [p] => p.minLength
  | p :: ps => p.minLength.bind fun m => (minLengthOfChoice ps).map (min m)

end

def takesCharacter (p : PatternShape) : Bool :=
  p.minLength.any (0 < ·)

mutual

def isWidthless : PatternShape → Bool
  | empty => true
  | text _ => false
  | set _ => false
  | assertion _ => true
  | repetition p _ high _ => high.isSome && p.isWidthless
  | group p => p.isWidthless
  | row ps => areWidthless ps
  | choice ps => areWidthless ps

def areWidthless : List PatternShape → Bool
  | [] => true
  | p :: ps => p.isWidthless && areWidthless ps

end

mutual

/-- Whether a match can only start where `a` holds; what stands behind a part that takes
characters is not looked at. -/
def startsWith (a : Assertion) : PatternShape → Bool
  | assertion b => a == b
  | repetition p low _ _ => 0 < low && p.startsWith a
  | group p => p.startsWith a
  | row ps => rowStartsWith a ps
  | choice ps => allStartWith a ps
  | _ => false

def rowStartsWith (a : Assertion) : List PatternShape → Bool
  | [] => false
  | p :: ps => p.startsWith a || (p.isWidthless && rowStartsWith a ps)

def allStartWith (a : Assertion) : List PatternShape → Bool
  | [] => true
  | p :: ps => p.startsWith a && allStartWith a ps

end

mutual

/-- Whether a match can only end where `a` holds; what stands in front of a part that
takes characters is not looked at. -/
def endsWith (a : Assertion) : PatternShape → Bool
  | assertion b => a == b
  | repetition p low _ _ => 0 < low && p.endsWith a
  | group p => p.endsWith a
  | row ps => rowEndsWith a ps
  | choice ps => allEndWith a ps
  | _ => false

def rowEndsWith (a : Assertion) : List PatternShape → Bool
  | [] => false
  | p :: ps => rowEndsWith a ps || (areWidthless ps && p.endsWith a)

def allEndWith (a : Assertion) : List PatternShape → Bool
  | [] => true
  | p :: ps => p.endsWith a && allEndWith a ps

end

/-! ## Building shapes -/

/-- A character of a set; the only character of a set is text. -/
def ofSet (s : CodePointSet) : PatternShape :=
  let s := s.diff .surrogates
  match s.boundaries.toList with
  | [low, next] => if next = low + 1 then text [Char.ofNat low] else set s
  | _ => set s

/-- A repetition. What takes no character is not repeated more than once. -/
def repeated (p : PatternShape) (low : Nat) (high : Option Nat) (isLazy : Bool) :
    PatternShape :=
  let (low, high) : Nat × Option Nat :=
    if p.isWidthless then (min low 1, some (min (high.getD 1) 1)) else (low, high)
  match low, high with
  | _, some 0 => empty
  | 1, some 1 => p
  | low, high => repetition p low high isLazy

def parts : PatternShape → List PatternShape
  | empty => []
  | row ps => ps
  | p => [p]

def putFirst : PatternShape → List PatternShape → List PatternShape
  | text cs, text ds :: ps => text (cs ++ ds) :: ps
  | p, ps => p :: ps

def ofRow (ps : List PatternShape) : PatternShape :=
  match (ps.flatMap parts).foldr putFirst [] with
  | [] => empty
  | [p] => p
  | ps => row ps

def alternatives : PatternShape → List PatternShape
  | choice ps => ps
  | p => [p]

def text? : PatternShape → Option (List Char)
  | text cs => some cs
  | _ => none

def character? : PatternShape → Option CodePointSet
  | text [c] => some (.interval c.toNat c.toNat)
  | _ => none

def set? : PatternShape → Option CodePointSet
  | set s => some s
  | _ => none

def row? : PatternShape → Option (List PatternShape)
  | row ps => some ps
  | _ => none

/-- The choice between several shapes. Nothing is left of the fuel only if it is less than
the size of the first of them: what remains behind a shared start is smaller than that. -/
def ofChoiceWithin : (fuel : Nat) → List PatternShape → PatternShape
  | 0, ps => choice ps
  | fuel + 1, ps =>
    match ps.flatMap alternatives with
    | [] => empty
    | [p] => p
    | ps =>
      match (ps.mapM character?).or (ps.mapM set?) with
      | some sets => ofSet (.unionAll sets.length sets)
      | none =>
        match ps.mapM row? with
        | some (first :: others) =>
          match others.foldl sharedStart first with
          | [] => choice ps
          | start =>
            let rests := (first :: others).map fun row => ofRow (row.drop start.length)
            ofRow (start ++ [ofChoiceWithin fuel rests])
        | _ => choice ps

/-- The choice between several shapes: characters make a set, and so do sets; rows are
parted into what they all start with and the choice between their rests. -/
def ofChoice (ps : List PatternShape) : PatternShape :=
  ofChoiceWithin (sizeOfAll ps + 1) ps

end PatternShape

namespace PatternTree

mutual

def shape : PatternTree → PatternShape
  | blank => .empty
  | set s _ => .ofSet s.codePoints
  | assertion a => .assertion a
  | group captures t => if captures then .group t.shape else t.shape
  | repetition t low high isLazy => t.shape.repeated low high isLazy
  | row ts => .ofRow (shapes ts)
  | choice ts => .ofChoice (shapes ts)

def shapes : List PatternTree → List PatternShape
  | [] => []
  | t :: ts => t.shape :: shapes ts

end

end PatternTree

end ChatTriage
