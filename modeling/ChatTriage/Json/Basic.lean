/-!
# JSON values

Values whose numbers are whole. The members of an object keep their order.
-/

namespace ChatTriage

inductive Json
  | null
  | bool (b : Bool)
  | number (n : Int)
  | string (s : String)
  | array (items : List Json)
  | object (members : List (String × Json))
deriving Repr

def decimal (n : Nat) : String :=
  String.ofList (Nat.toDigits 10 n)

namespace Json

def ofOption : Option Json → Json
  | some j => j
  | none => null

def count (n : Nat) : Json :=
  number n

end Json

end ChatTriage
