import ChatTriage.Pattern.Escape

/-!
# Bracketed classes

A class lists characters, ranges and classes of its own between brackets. Operators
intersect or subtract what stands on their two sides; they all bind alike, from left to
right. The written form of a class counts towards the depth of its pattern.
-/

namespace ChatTriage

/-- A set of characters together with how deep its written form nests. -/
structure NestedSet where
  set : CharSet
  depth : Nat

inductive ClassOperator
  | intersection
  | difference
  | symmetricDifference

def ClassOperator.apply : ClassOperator → CharSet → CharSet → CharSet
  | intersection, s, t => .inter s t
  | difference, s, t => .diff s t
  | symmetricDifference, s, t => .symmDiff s t

/-- Reads one member, which is a character or a class of its own. An assertion has no
place in a class. -/
def readMember : List Char → Option (Escape × List Char)
  | [] => none
  | '\\' :: c :: cs =>
    match Escape.ofChar? c with
    | some (.assertion _) | none => none
    | some member => some (member, cs)
  | ['\\'] => none
  | c :: cs => some (.char c, cs)

/-- Reads a member or a range. A hyphen in front of the closing bracket or of another
hyphen makes no range. -/
def readRange (cs : List Char) : Option (CharSet × List Char) :=
  match readMember cs with
  | none | some (.assertion _, _) => none
  | some (.set s, '-' :: cs) =>
    if cs.head? == some ']' || cs.head? == some '-' then some (s, '-' :: cs) else none
  | some (.set s, cs) => some (s, cs)
  | some (.char low, '-' :: cs) =>
    if cs.head? == some ']' || cs.head? == some '-' then
      some (.single low, '-' :: cs)
    else
      match readMember cs with
      | some (.char high, cs) => if low ≤ high then some (.range low high, cs) else none
      | _ => none
  | some (.char c, cs) => some (.single c, cs)

def namedClasses : List (String × CharSet) :=
  let upper := CharSet.range 'A' 'Z'
  let lower := CharSet.range 'a' 'z'
  let alpha := CharSet.union upper lower
  let alnum := CharSet.union (.range '0' '9') alpha
  [("alnum", alnum),
    ("alpha", alpha),
    ("ascii", .range '\x00' '\x7f'),
    ("blank", .union (.single '\t') (.single ' ')),
    ("cntrl", .union (.range '\x00' '\x1f') (.single '\x7f')),
    ("digit", .range '0' '9'),
    ("graph", .range '!' '~'),
    ("lower", lower),
    ("print", .range ' ' '~'),
    ("punct", .diff (.range '!' '~') alnum),
    ("space", .union (.range '\t' '\r') (.single ' ')),
    ("upper", upper),
    ("word", .union alnum (.single '_')),
    ("xdigit", .union (.range '0' '9') (.union (.range 'A' 'F') (.range 'a' 'f')))]

/-- Reads what follows the bracket of a named class: the name between colons, with a
circumflex in front of it for its complement, and the closing bracket. -/
def readNamedClass (cs : List Char) : Option (CharSet × List Char) :=
  match cs with
  | ':' :: cs =>
    let (negated, cs) : Bool × List Char :=
      match cs with
      | '^' :: rest => (true, rest)
      | _ => (false, cs)
    match namedClasses.lookup (String.ofList (cs.takeWhile (· != ':'))),
        cs.dropWhile (· != ':') with
    | some s, ':' :: ']' :: rest => some (if negated then .complement s else s, rest)
    | _, _ => none
  | _ => none

/-! ## Classes -/

structure OpenClass where
  negated : Bool
  /-- The left side of the last operator. -/
  left : Option (NestedSet × ClassOperator)
  /-- The union of the members behind that operator. -/
  members : CharSet
  memberCount : Nat
  /-- How deep the members nest at most. -/
  memberDepth : Nat

namespace OpenClass

def add (k : OpenClass) (s : NestedSet) : OpenClass :=
  { k with
    members := .union k.members s.set
    memberCount := k.memberCount + 1
    memberDepth := max k.memberDepth s.depth }

/-- The members behind the last operator. Two or more of them are a level of their own. -/
def operand (k : OpenClass) : NestedSet :=
  ⟨k.members, if k.memberCount < 2 then k.memberDepth else k.memberDepth + 1⟩

def value (k : OpenClass) : NestedSet :=
  match k.left with
  | none => k.operand
  | some (s, op) => ⟨op.apply s.set k.operand.set, max s.depth k.operand.depth + 1⟩

def operate (k : OpenClass) (op : ClassOperator) : OpenClass :=
  ⟨k.negated, some (k.value, op), .empty, 0, 0⟩

def close (k : OpenClass) : NestedSet :=
  ⟨if k.negated then .complement k.value.set else k.value.set, k.value.depth + 1⟩

/-- Reads what follows an opening bracket up to the first proper member: a circumflex
negates the class, hyphens stand for themselves, and so does a closing bracket that
comes before everything else. -/
def start (cs : List Char) : OpenClass × List Char :=
  let (negated, cs) : Bool × List Char :=
    match cs with
    | '^' :: rest => (true, rest)
    | _ => (false, cs)
  let hyphens := cs.takeWhile (· == '-')
  match hyphens, cs.dropWhile (· == '-') with
  | [], ']' :: rest => (⟨negated, none, .single ']', 1, 0⟩, rest)
  | [], rest => (⟨negated, none, .empty, 0, 0⟩, rest)
  | _, rest => (⟨negated, none, .single '-', hyphens.length, 0⟩, rest)

/-- Reads members and operators up to the bracket that closes the outermost class; `outer`
are the classes around the innermost one, which is `k`. A bracket inside opens a class,
named or not, that is a member of the one around it. -/
def read : (fuel : Nat) → (k : OpenClass) → (outer : List OpenClass) → List Char →
    Option (NestedSet × List Char)
  | 0, _, _, _ => none
  | _, _, _, [] => none
  | _, k, [], ']' :: cs => some (k.close, cs)
  | fuel + 1, k, around :: outer, ']' :: cs => read fuel (around.add k.close) outer cs
  | fuel + 1, k, outer, '&' :: '&' :: cs => read fuel (k.operate .intersection) outer cs
  | fuel + 1, k, outer, '-' :: '-' :: cs => read fuel (k.operate .difference) outer cs
  | fuel + 1, k, outer, '~' :: '~' :: cs => read fuel (k.operate .symmetricDifference) outer cs
  | fuel + 1, k, outer, '[' :: cs =>
    match readNamedClass cs with
    | some (s, cs) => read fuel (k.add ⟨s, 0⟩) outer cs
    | none =>
      let (inner, cs) := start cs
      read fuel inner (k :: outer) cs
  | fuel + 1, k, outer, cs =>
    match readRange cs with
    | some (s, cs) => read fuel (k.add ⟨s, 0⟩) outer cs
    | none => none

end OpenClass

end ChatTriage
