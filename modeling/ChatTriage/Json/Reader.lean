import ChatTriage.Json.Basic

/-!
# Reading JSON

Reads a value back from its text, in whatever layout it is printed. Numbers are whole,
and an escaped pair of surrogates is the one character that it stands for.
-/

namespace ChatTriage.Json

def isLayoutBlank (c : Char) : Bool :=
  c == ' ' || c == '\t' || c == '\n' || c == '\r'

def skipBlanks (cs : List Char) : List Char :=
  cs.dropWhile isLayoutBlank

def hexValue? (c : Char) : Option Nat :=
  if c.isDigit then some (c.toNat - '0'.toNat)
  else if 'a' ≤ c && c ≤ 'f' then some (c.toNat - 'a'.toNat + 10)
  else if 'A' ≤ c && c ≤ 'F' then some (c.toNat - 'A'.toNat + 10)
  else none

def hexNumber? (a b c d : Char) : Option Nat := do
  return (← hexValue? a) * 4096 + (← hexValue? b) * 256 + (← hexValue? c) * 16 + (← hexValue? d)

def unescape? : Char → Option Char
  | '"' => some '"'
  | '\\' => some '\\'
  | '/' => some '/'
  | 'b' => some '\x08'
  | 'f' => some '\x0c'
  | 'n' => some '\n'
  | 'r' => some '\r'
  | 't' => some '\t'
  | _ => none

def isHighSurrogate (n : Nat) : Bool :=
  0xD800 ≤ n && n < 0xDC00

def isLowSurrogate (n : Nat) : Bool :=
  0xDC00 ≤ n && n < 0xE000

/-- Reads a string up to its closing quote. Control characters have to be escaped, and
the halves of a surrogate pair come together. -/
def readString : List Char → Option (List Char × List Char)
  | [] => none
  | '"' :: cs => some ([], cs)
  | '\\' :: 'u' :: a :: b :: c :: d :: '\\' :: 'u' :: e :: f :: g :: h :: cs =>
    match hexNumber? a b c d, hexNumber? e f g h with
    | some high, some low =>
      if isHighSurrogate high && isLowSurrogate low then
        (readString cs).map fun (text, rest) =>
          (Char.ofNat (0x10000 + (high - 0xD800) * 0x400 + (low - 0xDC00)) :: text, rest)
      else if isHighSurrogate high || isLowSurrogate high then
        none
      else
        (readString ('\\' :: 'u' :: e :: f :: g :: h :: cs)).map fun (text, rest) =>
          (Char.ofNat high :: text, rest)
    | _, _ => none
  | '\\' :: 'u' :: a :: b :: c :: d :: cs =>
    match hexNumber? a b c d with
    | some n =>
      if isHighSurrogate n || isLowSurrogate n then none
      else (readString cs).map fun (text, rest) => (Char.ofNat n :: text, rest)
    | none => none
  | '\\' :: c :: cs =>
    match unescape? c with
    | some d => (readString cs).map fun (text, rest) => (d :: text, rest)
    | none => none
  | c :: cs =>
    if c.toNat < 0x20 then none
    else (readString cs).map fun (text, rest) => (c :: text, rest)

/-- Reads the digits of a number without leading zeros. -/
def readDigits (cs : List Char) : Option (Nat × List Char) :=
  let digits := cs.takeWhile Char.isDigit
  let rest := cs.dropWhile Char.isDigit
  match digits with
  | [] => none
  | '0' :: _ :: _ => none
  | _ => some (digits.foldl (fun n d => n * 10 + (d.toNat - '0'.toNat)) 0, rest)

def readNumber : List Char → Option (Int × List Char)
  | '-' :: cs => (readDigits cs).map fun (n, rest) => (-(n : Int), rest)
  | cs => (readDigits cs).map fun (n, rest) => ((n : Int), rest)

/-! ## Values -/

mutual

def readValue : (fuel : Nat) → List Char → Option (Json × List Char)
  | 0, _ => none
  | fuel + 1, cs =>
    match skipBlanks cs with
    | 'n' :: 'u' :: 'l' :: 'l' :: rest => some (null, rest)
    | 't' :: 'r' :: 'u' :: 'e' :: rest => some (bool true, rest)
    | 'f' :: 'a' :: 'l' :: 's' :: 'e' :: rest => some (bool false, rest)
    | '"' :: rest => (readString rest).map fun (text, rest) => (string (String.ofList text), rest)
    | '[' :: rest =>
      match skipBlanks rest with
      | ']' :: rest => some (array [], rest)
      | rest => (readItems fuel rest).map fun (items, rest) => (array items, rest)
    | '\x7b' :: rest =>
      match skipBlanks rest with
      | '\x7d' :: rest => some (object [], rest)
      | rest => (readMembers fuel rest).map fun (members, rest) => (object members, rest)
    | cs => (readNumber cs).map fun (n, rest) => (number n, rest)

def readItems : (fuel : Nat) → List Char → Option (List Json × List Char)
  | 0, _ => none
  | fuel + 1, cs =>
    match readValue fuel cs with
    | none => none
    | some (item, rest) =>
      match skipBlanks rest with
      | ',' :: rest => (readItems fuel rest).map fun (items, rest) => (item :: items, rest)
      | ']' :: rest => some ([item], rest)
      | _ => none

def readMembers : (fuel : Nat) → List Char → Option (List (String × Json) × List Char)
  | 0, _ => none
  | fuel + 1, cs =>
    match skipBlanks cs with
    | '"' :: rest =>
      match readString rest with
      | none => none
      | some (key, rest) =>
        match skipBlanks rest with
        | ':' :: rest =>
          match readValue fuel rest with
          | none => none
          | some (value, rest) =>
            let member := (String.ofList key, value)
            match skipBlanks rest with
            | ',' :: rest =>
              (readMembers fuel rest).map fun (members, rest) => (member :: members, rest)
            | '\x7d' :: rest => some ([member], rest)
            | _ => none
        | _ => none
    | _ => none

end

/-- The value that a whole text writes. Every step of the reader takes a character, or
goes on to the value in an item, so twice the length and one is fuel enough. -/
def parse? (text : List Char) : Option Json :=
  match readValue (2 * text.length + 1) text with
  | some (j, rest) => if (skipBlanks rest).isEmpty then some j else none
  | none => none

end ChatTriage.Json
