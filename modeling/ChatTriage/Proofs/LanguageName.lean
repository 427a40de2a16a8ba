import ChatTriage.Proofs.Text
import ChatTriage.Report.Decoding
import ChatTriage.Report.Encoding
import Mathlib.Data.List.Forall2

/-!
# Names of languages

A text names a language when it is the display name or the identifier, each ASCII letter in
either case, with or without blanks around it. No text names two languages, so whichever
order the catalog is searched in, the same one is found. In JSON the display name alone stands
for a language, exactly as it is written, and the text is read as the same language.
-/

namespace ChatTriage

open Unicode Text

namespace Unicode

variable {c d : Char} {s t : List Char}

def IsSmallOf (small capital : Char) : Prop :=
  'A' ≤ capital ∧ capital ≤ 'Z' ∧ small.toNat = capital.toNat + 32

def SameButCase (c d : Char) : Prop :=
  c = d ∨ IsSmallOf c d ∨ IsSmallOf d c

theorem isSmallOf_iff : IsSmallOf c d ↔ 65 ≤ d.toNat ∧ d.toNat ≤ 90 ∧ c.toNat = d.toNat + 32 :=
  Iff.rfl

theorem toNat_toLower (c : Char) :
    c.toLower.toNat = if 65 ≤ c.toNat ∧ c.toNat ≤ 90 then c.toNat + 32 else c.toNat := by
  have hcapital : (c.val ≥ 'A'.val ∧ c.val ≤ 'Z'.val) ↔ 65 ≤ c.toNat ∧ c.toNat ≤ 90 := Iff.rfl
  by_cases h : 65 ≤ c.toNat ∧ c.toNat ≤ 90
  · have hfits : c.toNat + 32 < 4294967296 := by omega
    calc c.toLower.toNat
      _ = (c.val + 32).toNat := congrArg Char.toNat (dif_pos (hcapital.2 h))
      _ = (c.toNat + 32) % 4294967296 := UInt32.toNat_add c.val 32
      _ = c.toNat + 32 := Nat.mod_eq_of_lt hfits
      _ = _ := (if_pos h).symm
  · calc c.toLower.toNat
      _ = c.toNat := congrArg Char.toNat (dif_neg (mt hcapital.1 h))
      _ = _ := (if_neg h).symm

theorem toLower_eq_toLower_iff : c.toLower = d.toLower ↔ SameButCase c d := by
  rw [SameButCase, isSmallOf_iff, isSmallOf_iff, ← Char.toNat_inj, ← Char.toNat_inj,
    toNat_toLower, toNat_toLower]
  split_ifs <;> omega

theorem equalIgnoringAsciiCase_iff :
    equalIgnoringAsciiCase s t = true ↔ List.Forall₂ SameButCase s t := by
  rw [equalIgnoringAsciiCase, beq_iff_eq, ← List.forall₂_eq_eq_eq, List.forall₂_map_left_iff,
    List.forall₂_map_right_iff]
  simp only [toLower_eq_toLower_iff]

theorem isBlank_toLower (c : Char) : isBlank c.toLower = isBlank c := by
  have hascii : ∀ n < 0x80, isBlank (Char.ofNat n).toLower = isBlank (Char.ofNat n) := by decide
  by_cases hc : c.toNat < 0x80
  · rw [← Char.ofNat_toNat c]
    exact hascii c.toNat hc
  · have hsame : c.toLower = c := by
      rw [← Char.toNat_inj, toNat_toLower, if_neg (by omega)]
    rw [hsame]

end Unicode

namespace Language

variable {l m : Language} {text front core back : List Char} {name : String}
  {order : List Language} {e : UnknownLanguage}

/-- The text is the display name or the identifier, each ASCII letter in either case. -/
def IsName (l : Language) (text : List Char) : Prop :=
  List.Forall₂ SameButCase l.displayName.toList text ∨
    List.Forall₂ SameButCase l.highlighterId.toList text

/-- What stands between the blanks at both ends of the text is a name of the language. -/
def AnswersTo (l : Language) (text : List Char) : Prop :=
  ∃ core, TrimsTo text core ∧ l.IsName core

def smallNames (l : Language) : List (List Char) :=
  [l.displayName, l.highlighterId].map fun name => name.toList.map Char.toLower

theorem isNamed_iff : l.isNamed text = true ↔ l.IsName text := by
  rw [isNamed, Bool.or_eq_true, equalIgnoringAsciiCase_iff, equalIgnoringAsciiCase_iff, IsName]

theorem isName_iff_mem : l.IsName text ↔ text.map Char.toLower ∈ l.smallNames := by
  rw [← isNamed_iff, isNamed, Bool.or_eq_true, equalIgnoringAsciiCase, equalIgnoringAsciiCase,
    beq_iff_eq, beq_iff_eq]
  simp only [smallNames, List.map_cons, List.map_nil, List.mem_cons, List.not_mem_nil, or_false]
  exact or_congr eq_comm eq_comm

theorem answersTo_iff : l.AnswersTo text ↔ l.IsName (trim text) := by
  constructor
  · rintro ⟨core, hcore, hname⟩
    rwa [trim_eq_iff.2 hcore]
  · intro h
    exact ⟨_, trim_eq_iff.1 rfl, h⟩

theorem eq_of_mem_smallNames : ∀ l ∈ all, ∀ m ∈ all, ∀ name ∈ l.smallNames,
    name ∈ m.smallNames → l = m := by
  decide +kernel

theorem isBlank_of_mem_smallNames : ∀ l ∈ all, ∀ name ∈ l.smallNames,
    name.any isBlank = false := by
  decide +kernel

theorem IsName.unique (hl : l.IsName text) (hm : m.IsName text) : l = m :=
  eq_of_mem_smallNames l (mem_all l) m (mem_all m) _ (isName_iff_mem.1 hl) (isName_iff_mem.1 hm)

theorem AnswersTo.unique (hl : l.AnswersTo text) (hm : m.AnswersTo text) : l = m :=
  (answersTo_iff.1 hl).unique (answersTo_iff.1 hm)

theorem IsName.isBlank_eq_false (h : l.IsName text) : ∀ c ∈ text, isBlank c = false := by
  intro c hc
  have hsolid := isBlank_of_mem_smallNames l (mem_all l) _ (isName_iff_mem.1 h)
  rw [← isBlank_toLower, ← Bool.not_eq_true]
  exact List.any_eq_false.1 hsolid _ (List.mem_map_of_mem hc)

theorem isName_displayName (l : Language) : l.IsName l.displayName.toList :=
  .inl (List.forall₂_same.2 fun _ _ => .inl rfl)

theorem IsName.answersTo (h : l.IsName core) (hfront : ∀ c ∈ front, isBlank c = true)
    (hback : ∀ c ∈ back, isBlank c = true) : l.AnswersTo (front ++ (core ++ back)) := by
  have hsolid := h.isBlank_eq_false
  refine ⟨core, ⟨⟨front, back, rfl, hfront, hback⟩, ?_, ?_⟩, h⟩
  · exact fun c hc => hsolid c (List.mem_of_mem_head? hc)
  · exact fun c hc => hsolid c (List.mem_reverse.1 (List.mem_of_mem_head? hc))

theorem IsName.answersTo_self (h : l.IsName text) : l.AnswersTo text := by
  have hblanks : ∀ c ∈ ([] : List Char), isBlank c = true := List.forall_mem_nil _
  simpa using h.answersTo hblanks hblanks

/-! ## The search for a name -/

def firstNamed (order : List Language) (name : String) : Except UnknownLanguage Language :=
  match order.find? (·.isNamed (trim name.toList)) with
  | some l => .ok l
  | none => .error ⟨name⟩

theorem ofName_eq_firstNamed (name : String) : ofName name = firstNamed all name :=
  rfl

theorem find?_isNamed_eq_some_iff (horder : ∀ l, l ∈ order) :
    order.find? (·.isNamed text) = some l ↔ l.IsName text := by
  constructor
  · intro h
    have hnamed := List.find?_some h
    exact isNamed_iff.1 hnamed
  · intro h
    have hsome : (order.find? (·.isNamed text)).isSome = true :=
      List.find?_isSome.2 ⟨l, horder l, isNamed_iff.2 h⟩
    obtain ⟨m, hm⟩ := Option.isSome_iff_exists.1 hsome
    have hnamed := List.find?_some hm
    rw [hm, h.unique (isNamed_iff.1 hnamed)]

theorem firstNamed_eq_ok_iff (horder : ∀ l, l ∈ order) :
    firstNamed order name = .ok l ↔ l.AnswersTo name.toList := by
  rw [answersTo_iff, ← find?_isNamed_eq_some_iff horder, firstNamed]
  cases order.find? (·.isNamed (trim name.toList)) <;> simp

theorem firstNamed_eq_error_iff (horder : ∀ l, l ∈ order) :
    firstNamed order name = .error e ↔
      e.name = name ∧ ∀ l : Language, ¬ l.AnswersTo name.toList := by
  have hnone : order.find? (·.isNamed (trim name.toList)) = none ↔
      ∀ l : Language, ¬ l.AnswersTo name.toList := by
    rw [Option.eq_none_iff_forall_ne_some]
    simp only [ne_eq, find?_isNamed_eq_some_iff horder, answersTo_iff]
  rw [← hnone, firstNamed]
  cases order.find? (·.isNamed (trim name.toList)) with
  | none =>
      cases e
      simp [eq_comm]
  | some l => simp

/-- In every order in which the whole catalog is searched, the same is found. -/
theorem firstNamed_eq_ofName (horder : ∀ l, l ∈ order) (name : String) :
    firstNamed order name = ofName name := by
  rw [ofName_eq_firstNamed]
  cases h : firstNamed order name with
  | ok l =>
      exact ((firstNamed_eq_ok_iff mem_all).2 ((firstNamed_eq_ok_iff horder).1 h)).symm
  | error e =>
      exact ((firstNamed_eq_error_iff mem_all).2 ((firstNamed_eq_error_iff horder).1 h)).symm

theorem jsonName_eq_displayName (l : Language) : l.jsonName = l.displayName := by
  cases l <;> rfl

theorem ofJsonName?_eq_some_iff : ofJsonName? name = some l ↔ l.displayName = name := by
  rw [← jsonName_eq_displayName]
  constructor
  · intro h
    simpa using List.find?_some h
  · rintro rfl
    cases l <;> rfl

theorem ofJson_string_eq_ok_iff : ofJson (.string name) = .ok l ↔ l.displayName = name := by
  rw [← ofJsonName?_eq_some_iff, ofJson]
  cases ofJsonName? name <;> simp

theorem toJson_eq (l : Language) : l.toJson = .string l.displayName := by
  rw [toJson, jsonName_eq_displayName]

structure NameReading (name : String) : Prop where
  ok_iff : ∀ l, ofName name = .ok l ↔ l.AnswersTo name.toList
  /-- The error holds the text as it was given, its blanks included. -/
  error_iff : ∀ e, ofName name = .error e ↔
    e.name = name ∧ ∀ l : Language, ¬ l.AnswersTo name.toList
  unique : ∀ l m : Language, l.AnswersTo name.toList → m.AnswersTo name.toList → l = m
  any_order : ∀ order, (∀ l, l ∈ order) → firstNamed order name = ofName name
  between_blanks : ∀ (l : Language) (front core back : List Char),
    name.toList = front ++ (core ++ back) → (∀ c ∈ front, isBlank c = true) →
      (∀ c ∈ back, isBlank c = true) → l.IsName core → ofName name = .ok l
  /-- JSON knows a language by its display name alone, and writes it back so. -/
  ofJson_iff : ∀ l, ofJson (.string name) = .ok l ↔ l.displayName = name
  ofJson_roundTrip : ∀ l, ofJson (.string name) = .ok l →
    ofName name = .ok l ∧ l.toJson = .string name

/-- Whatever the text, it is read as the one language that it is a name of, or refused as it
stands, and reading agrees with JSON. -/
theorem ofName_unambiguous (name : String) : NameReading name where
  ok_iff l := firstNamed_eq_ok_iff mem_all
  error_iff e := firstNamed_eq_error_iff mem_all
  unique l m := AnswersTo.unique
  any_order order horder := firstNamed_eq_ofName horder name
  between_blanks l front core back htext hfront hback hname := by
    apply (firstNamed_eq_ok_iff mem_all).2
    rw [htext]
    exact hname.answersTo hfront hback
  ofJson_iff l := ofJson_string_eq_ok_iff
  ofJson_roundTrip l h := by
    obtain rfl := ofJson_string_eq_ok_iff.1 h
    exact ⟨(firstNamed_eq_ok_iff mem_all).2 l.isName_displayName.answersTo_self, l.toJson_eq⟩

/-- An identifier in mixed case, with an ideographic space in front of it and a next line
control behind it. -/
theorem ofName_unambiguous_cSharp :
    ofName "\u3000CSharp\u0085\n" = .ok .cSharp ∧
      ofJson (.string "C#") = .ok .cSharp ∧ ofName "C#" = .ok .cSharp := by
  have hjson : ofJson (.string "C#") = .ok .cSharp := by decide
  refine ⟨?_, hjson, ((ofName_unambiguous "C#").ofJson_roundTrip .cSharp hjson).1⟩
  exact (ofName_unambiguous "\u3000CSharp\u0085\n").between_blanks .cSharp
    "\u3000".toList "CSharp".toList "\u0085\n".toList (by decide +kernel)
    (List.all_eq_true.1 (by decide +kernel)) (List.all_eq_true.1 (by decide +kernel))
    (isNamed_iff.1 (by decide +kernel))

/-- The Kelvin sign is no letter of ASCII. -/
example : ofName "\u212Aotlin" = .error ⟨"\u212Aotlin"⟩ := by
  decide +kernel

end Language

end ChatTriage
