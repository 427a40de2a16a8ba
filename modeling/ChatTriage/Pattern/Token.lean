import ChatTriage.Pattern.Bracket

/-!
# Tokens of written patterns

The written form of a pattern is cut into tokens first. What a token means may depend
on the flags in force around it, so tokens know nothing of flags; a bracketed class is
one token.
-/

namespace ChatTriage

open Unicode

structure PatternFlags where
  ignoreCase : Bool := false
  /-- The line anchors hold at every line of the text. -/
  multiLine : Bool := false
  /-- The dot takes a line feed too. -/
  dotAll : Bool := false
deriving DecidableEq, Repr

def PatternFlags.or (f g : PatternFlags) : PatternFlags where
  ignoreCase := f.ignoreCase || g.ignoreCase
  multiLine := f.multiLine || g.multiLine
  dotAll := f.dotAll || g.dotAll

inductive PatternToken
  | literal (c : Char)
  /-- A set whose written form nests as deep as the number says. -/
  | set (s : CharSet) (depth : Nat)
  | assertion (a : Assertion)
  | dot
  | caret
  | dollar
  | bar
  /-- Opens a group, with the flags that hold inside it. Only a group without a question
  mark captures what it matches. -/
  | openGroup (captures : Bool) (flags : PatternFlags)
  | closeGroup
  /-- Switches flags on up to the end of the group around it. -/
  | switch (flags : PatternFlags)
  /-- Repeats what stands before it; a lazy one asks for as few times as possible. -/
  | repetition (low : Nat) (high : Option Nat) (isLazy : Bool)
deriving DecidableEq, Repr

namespace PatternToken

def ofEscape : Escape → PatternToken
  | .char c => literal c
  | .set s => set s 0
  | .assertion a => assertion a

def maxCount : Nat :=
  4294967295

def readCount (cs : List Char) : Option (Nat × List Char) :=
  let cs := cs.dropWhile isBlank
  let digits := cs.takeWhile Char.isDigit
  let value := digits.foldl (fun n d => n * 10 + (d.toNat - '0'.toNat)) 0
  if digits.isEmpty || maxCount < value then none
  else some (value, (cs.dropWhile Char.isDigit).dropWhile isBlank)

/-- Reads what follows an opening brace: one count, a lower bound and a comma, or both
bounds in order. -/
def readBounds (cs : List Char) : Option ((Nat × Option Nat) × List Char) :=
  match readCount cs with
  | some (low, '}' :: cs) => some ((low, some low), cs)
  | some (low, ',' :: '}' :: cs) => some ((low, none), cs)
  | some (low, ',' :: cs) =>
    match readCount cs with
    | some (high, '}' :: cs) => if low ≤ high then some ((low, some high), cs) else none
    | _ => none
  | _ => none

/-- A repetition, which a question mark behind it makes a lazy one. Whether there is a
match does not depend on that. -/
def repetitionToken (low : Nat) (high : Option Nat) (cs : List Char) :
    PatternToken × List Char :=
  match cs with
  | '?' :: rest => (repetition low high true, rest)
  | _ => (repetition low high false, cs)

/-- Switches on the flag of a letter; no letter may come twice. -/
def switchOn (f : PatternFlags) : Char → Option PatternFlags
  | 'i' => if f.ignoreCase then none else some { f with ignoreCase := true }
  | 'm' => if f.multiLine then none else some { f with multiLine := true }
  | 's' => if f.dotAll then none else some { f with dotAll := true }
  | _ => none

/-- Reads what follows an opening parenthesis and a question mark: flag letters, then a
colon for a group or a closing parenthesis for flags alone, of which there is at least
one. No flag is switched off, and no group has a name. -/
def readFlags (f : PatternFlags) : List Char → Option (PatternToken × List Char)
  | ':' :: cs => some (openGroup false f, cs)
  | ')' :: cs => if f = {} then none else some (switch f, cs)
  | c :: cs =>
    match switchOn f c with
    | some f => readFlags f cs
    | none => none
  | [] => none

/-! ## Tokens -/

def read : List Char → Option (PatternToken × List Char)
  | [] => none
  | '\\' :: c :: cs => (Escape.ofChar? c).map (ofEscape ·, cs)
  | ['\\'] => none
  | '[' :: cs =>
    let (k, rest) := OpenClass.start cs
    (OpenClass.read cs.length k [] rest).map fun (s, rest) => (set s.set s.depth, rest)
  | '(' :: '?' :: cs => readFlags {} cs
  | '(' :: cs => some (openGroup true {}, cs)
  | ')' :: cs => some (closeGroup, cs)
  | '|' :: cs => some (bar, cs)
  | '.' :: cs => some (dot, cs)
  | '^' :: cs => some (caret, cs)
  | '$' :: cs => some (dollar, cs)
  | '*' :: cs => some (repetitionToken 0 none cs)
  | '+' :: cs => some (repetitionToken 1 none cs)
  | '?' :: cs => some (repetitionToken 0 (some 1) cs)
  | '{' :: cs =>
    match readBounds cs with
    | some ((low, high), cs) => some (repetitionToken low high cs)
    | none => none
  | c :: cs => some (literal c, cs)

/-- Cuts a written pattern into tokens, one character or more each. -/
def readAll : (fuel : Nat) → List Char → Option (List PatternToken)
  | _, [] => some []
  | 0, _ => none
  | fuel + 1, cs =>
    match read cs with
    | some (token, rest) => (readAll fuel rest).map (token :: ·)
    | none => none

end PatternToken

end ChatTriage
