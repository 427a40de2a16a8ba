import ChatTriage.Json.Printer
import ChatTriage.Json.Reader
import ChatTriage.Proofs.Text
import Mathlib.Data.List.DropRight

/-!
# Reading what was printed

A printed value is read back as that value, in both layouts. The reader is followed over
the text that the printer wrote, with anything behind it that is no further digit.
-/

namespace ChatTriage.Json

open Text

theorem isLayoutBlank_of_mem_lineBreak {layout : JsonLayout} {depth : Nat} {c : Char}
    (h : c ∈ layout.lineBreak depth) : isLayoutBlank c = true := by
  cases layout with
  | compact => cases h
  | pretty =>
      rcases List.mem_cons.1 h with rfl | h
      · rfl
      · rw [List.eq_of_mem_replicate h]
        rfl

theorem skipBlanks_append {blanks : List Char} (h : ∀ c ∈ blanks, isLayoutBlank c = true)
    (text : List Char) : skipBlanks (blanks ++ text) = skipBlanks text :=
  List.dropWhile_append_of_pos h

@[simp] theorem skipBlanks_lineBreak (layout : JsonLayout) (depth : Nat) (text : List Char) :
    skipBlanks (layout.lineBreak depth ++ text) = skipBlanks text :=
  skipBlanks_append (fun _ => isLayoutBlank_of_mem_lineBreak) text

theorem skipBlanks_cons {c : Char} (h : isLayoutBlank c = false) (cs : List Char) :
    skipBlanks (c :: cs) = c :: cs :=
  List.dropWhile_cons_of_neg (by simp [h])

theorem skipBlanks_skipBlanks (text : List Char) :
    skipBlanks (skipBlanks text) = skipBlanks text :=
  List.dropWhile_idempotent isLayoutBlank text

theorem toDigits_of_pos {n : Nat} (h : 0 < n) :
    ∃ d ds, Nat.toDigits 10 n = d :: ds ∧ d ≠ '0' := by
  induction n using Nat.strongRecOn with
  | ind n ih =>
      by_cases hsmall : n < 10
      · refine ⟨n.digitChar, [], Nat.toDigits_of_lt_base hsmall, ?_⟩
        rw [Ne, Nat.digitChar_eq_zero]
        omega
      · obtain ⟨d, ds, hdigits, hd⟩ := ih (n / 10) (by omega) (by omega)
        refine ⟨d, ds ++ [(n % 10).digitChar], ?_, hd⟩
        rw [Nat.toDigits_eq_if (by decide), if_neg hsmall, hdigits, List.cons_append]

theorem isDigit_of_mem_toDigits {n : Nat} {c : Char} (h : c ∈ Nat.toDigits 10 n) :
    c.isDigit = true :=
  Nat.isDigit_of_mem_toDigits (by decide) (by decide) h

theorem exists_head_toDigits (n : Nat) :
    ∃ d ds, Nat.toDigits 10 n = d :: ds ∧ d.isDigit = true := by
  cases hdigits : Nat.toDigits 10 n with
  | nil => exact absurd hdigits Nat.toDigits_ne_nil
  | cons d ds =>
      have hd : d ∈ Nat.toDigits 10 n := hdigits ▸ List.mem_cons_self
      exact ⟨d, ds, rfl, isDigit_of_mem_toDigits hd⟩

theorem readDigits_toDigits (n : Nat) {rest : List Char} (h : StopsAt Char.isDigit rest) :
    readDigits (Nat.toDigits 10 n ++ rest) = some (n, rest) := by
  have hall : ∀ c ∈ Nat.toDigits 10 n, c.isDigit = true := fun _ => isDigit_of_mem_toDigits
  obtain ⟨hdigits, hrest⟩ := longestRun_iff.2 ⟨rfl, hall, h⟩
  have hvalue : (Nat.toDigits 10 n).foldl (fun n d => n * 10 + (d.toNat - '0'.toNat)) 0 = n := by
    have hread := @Nat.ofDigitChars_ten_toDigits n
    rw [Nat.ofDigitChars_eq_foldl] at hread
    simpa only [Nat.mul_comm] using hread
  simp only [readDigits, hdigits, hrest, hvalue]
  split
  next hnil => exact absurd hnil Nat.toDigits_ne_nil
  next d ds hzero =>
    rcases Nat.eq_zero_or_pos n with rfl | hpos
    · simp at hzero
    · obtain ⟨e, es, heq, he⟩ := toDigits_of_pos hpos
      rw [heq, List.cons.injEq] at hzero
      exact absurd hzero.1 he
  next => rfl

def IsNumberHead (c : Char) : Prop :=
  c = '-' ∨ c.isDigit = true

instance : DecidablePred IsNumberHead :=
  fun c => inferInstanceAs (Decidable (c = '-' ∨ c.isDigit = true))

theorem IsNumberHead.ne {c d : Char} (hc : IsNumberHead c) (hd : ¬ IsNumberHead d) :
    c ≠ d := by
  rintro rfl
  exact hd hc

theorem IsNumberHead.isLayoutBlank_eq_false {c : Char} (h : IsNumberHead c) :
    isLayoutBlank c = false := by
  have hspace := h.ne (d := ' ') (by decide)
  have htab := h.ne (d := '\t') (by decide)
  have hfeed := h.ne (d := '\n') (by decide)
  have hreturn := h.ne (d := '\r') (by decide)
  simp [isLayoutBlank, hspace, htab, hfeed, hreturn]

theorem exists_head_printNumber (n : Int) :
    ∃ c cs, printNumber n = c :: cs ∧ IsNumberHead c := by
  cases n with
  | ofNat n =>
      obtain ⟨d, ds, hdigits, hd⟩ := exists_head_toDigits n
      exact ⟨d, ds, hdigits, .inr hd⟩
  | negSucc n => exact ⟨'-', _, rfl, .inl rfl⟩

theorem readNumber_of_digit {d : Char} (h : d.isDigit = true) (cs : List Char) :
    readNumber (d :: cs) = (readDigits (d :: cs)).map fun (n, rest) => ((n : Int), rest) := by
  unfold readNumber
  split
  next cs' hsign =>
    obtain ⟨rfl, -⟩ := List.cons.inj hsign
    exact absurd h (by decide)
  next => rfl

theorem readNumber_printNumber (n : Int) {rest : List Char}
    (h : StopsAt Char.isDigit rest) : readNumber (printNumber n ++ rest) = some (n, rest) := by
  cases n with
  | ofNat n =>
      obtain ⟨d, ds, hdigits, hd⟩ := exists_head_toDigits n
      have hread := readDigits_toDigits n h
      rw [hdigits, List.cons_append] at hread
      rw [printNumber, hdigits, List.cons_append, readNumber_of_digit hd, hread]
      rfl
  | negSucc n =>
      rw [printNumber, List.cons_append, readNumber, readDigits_toDigits (n + 1) h]
      rfl

/-! ## Strings -/

section Strings

attribute [local simp] readString

theorem readString_plain {c : Char} (hquote : c ≠ '"') (hslash : c ≠ '\\')
    (h : 0x20 ≤ c.toNat) (rest : List Char) :
    readString (c :: rest) = (readString rest).map fun (text, rest) => (c :: text, rest) := by
  rw [readString, if_neg (Nat.not_lt.2 h)]
  case x_1 => exact hquote
  all_goals
    intros
    contradiction

theorem hexNumber?_control {n : Nat} (h : n < 0x20) :
    hexNumber? '0' '0' (n / 16).digitChar (n % 16).digitChar = some n := by
  revert n
  decide

/-- The text goes on with an escaped unit. -/
def StartsUnit (text : List Char) : Prop :=
  ∃ a b c d rest, text = '\\' :: 'u' :: a :: b :: c :: d :: rest

theorem readString_of_no_number {a b c d : Char} (h : hexNumber? a b c d = none)
    (rest : List Char) : readString ('\\' :: 'u' :: a :: b :: c :: d :: rest) = none := by
  by_cases hnext : StartsUnit rest
  · obtain ⟨e, f, g, i, after, rfl⟩ := hnext
    rw [readString, h]
  · rw [readString, h]
    intro e f g i after hrest
    exact hnext ⟨e, f, g, i, after, hrest⟩

theorem readString_control {n : Nat} (h : n < 0x20) (rest : List Char) :
    readString ('\\' :: 'u' :: '0' :: '0' :: (n / 16).digitChar :: (n % 16).digitChar :: rest) =
      (readString rest).map fun (text, rest) => (Char.ofNat n :: text, rest) := by
  have hhigh : isHighSurrogate n = false := by simp [isHighSurrogate]; omega
  have hlow : isLowSurrogate n = false := by simp [isLowSurrogate]; omega
  -- If another unit follows, the two might be meant as a pair.
  by_cases hnext : StartsUnit rest
  · obtain ⟨e, f, g, i, after, rfl⟩ := hnext
    rw [readString, hexNumber?_control h]
    cases hsecond : hexNumber? e f g i with
    | none =>
        rw [readString_of_no_number hsecond]
        rfl
    | some m => simp only [hhigh, hlow, Bool.false_and, Bool.or_self, Bool.false_eq_true, if_false]
  · rw [readString, hexNumber?_control h]
    · simp only [hhigh, hlow, Bool.or_self, Bool.false_eq_true, if_false]
    · intro e f g i after hrest
      exact hnext ⟨e, f, g, i, after, hrest⟩

theorem readString_escape (c : Char) (rest : List Char) :
    readString (escape c ++ rest) =
      (readString rest).map fun (text, rest) => (c :: text, rest) := by
  unfold escape
  split
  case h_8 hquote hslash _ _ _ _ _ =>
    split_ifs with hcontrol
    · have hchar := readString_control hcontrol rest
      rw [Char.ofNat_toNat] at hchar
      exact hchar
    · exact readString_plain hquote hslash (Nat.not_lt.1 hcontrol) rest
  all_goals rfl

theorem printString_append (s : String) (rest : List Char) :
    printString s ++ rest = '"' :: (s.toList.flatMap escape ++ '"' :: rest) := by
  rw [printString, List.append_assoc, List.cons_append, List.singleton_append]

theorem readString_printed (text rest : List Char) :
    readString (text.flatMap escape ++ '"' :: rest) = some (text, rest) := by
  induction text with
  | nil => simp
  | cons c cs ih =>
      rw [List.flatMap_cons, List.append_assoc, readString_escape, ih]
      rfl

end Strings

/-! ## Values -/

/-- What holds of every value that holds no others, and of every value with what it holds,
holds of all values. -/
@[elab_as_elim]
theorem recOnParts {P : Json → Prop} (null : P null) (bool : ∀ b, P (bool b))
    (number : ∀ n, P (number n)) (string : ∀ s, P (string s))
    (array : ∀ items, (∀ j ∈ items, P j) → P (array items))
    (object : ∀ members, (∀ m ∈ members, P m.2) → P (object members)) : ∀ j, P j
  | .null => null
  | .bool b => bool b
  | .number n => number n
  | .string s => string s
  | .array items =>
      array items fun j _ => recOnParts null bool number string array object j
  | .object members =>
      object members fun (_, value) _ => recOnParts null bool number string array object value
decreasing_by
  · have hitem := List.sizeOf_lt_of_mem ‹j ∈ items›
    rw [Json.array.sizeOf_spec]
    omega
  · have hmember := List.sizeOf_lt_of_mem ‹_ ∈ members›
    rw [Prod.mk.sizeOf_spec] at hmember
    rw [Json.object.sizeOf_spec]
    omega

theorem exists_head_printAt (layout : JsonLayout) (depth : Nat) (j : Json) :
    ∃ c cs, j.printAt layout depth = c :: cs ∧ isLayoutBlank c = false ∧ c ≠ ']' := by
  match j with
  | null | bool true | bool false | string _ | array [] | array (_ :: _) | object []
  | object ((_, _) :: _) => exact ⟨_, _, rfl, by decide, by decide⟩
  | number n =>
      obtain ⟨c, cs, hprint, hc⟩ := exists_head_printNumber n
      exact ⟨c, cs, hprint, hc.isLayoutBlank_eq_false, hc.ne (by decide)⟩

section Steps

attribute [local simp] readValue readItems readMembers

variable {fuel : Nat} {text text' rest after final : List Char} {j : Json} {items : List Json}
  {members : List (String × Json)}

theorem readValue_congr (h : skipBlanks text = skipBlanks text') :
    readValue fuel text = readValue fuel text' := by
  cases fuel with
  | zero => rfl
  | succ fuel => rw [readValue, readValue, h]

theorem readItems_congr (h : skipBlanks text = skipBlanks text') :
    readItems fuel text = readItems fuel text' := by
  cases fuel with
  | zero => rfl
  | succ fuel => rw [readItems, readItems, readValue_congr h]

theorem readMembers_congr (h : skipBlanks text = skipBlanks text') :
    readMembers fuel text = readMembers fuel text' := by
  cases fuel with
  | zero => rfl
  | succ fuel => rw [readMembers, readMembers, h]

theorem readValue_string (s : String) :
    readValue (fuel + 1) (printString s ++ rest) = some (string s, rest) := by
  rw [printString_append, readValue, skipBlanks_cons rfl]
  simp [readString_printed]

theorem readValue_number {c : Char} {cs : List Char} {n : Int} (hc : IsNumberHead c)
    (h : readNumber (c :: cs) = some (n, rest)) :
    readValue (fuel + 1) (c :: cs) = some (number n, rest) := by
  rw [readValue, skipBlanks_cons hc.isLayoutBlank_eq_false]
  split
  case h_7 => rw [h, Option.map_some]
  all_goals
    rename_i heq
    exact absurd (List.cons.inj heq).1 (hc.ne (by decide))

theorem readValue_array (hsome : ∀ cs, skipBlanks text ≠ ']' :: cs)
    (h : readItems fuel text = some (items, rest)) :
    readValue (fuel + 1) ('[' :: text) = some (array items, rest) := by
  rw [readValue, skipBlanks_cons rfl]
  simp [readItems_congr (skipBlanks_skipBlanks text), h]

theorem readValue_object (hsome : ∀ cs, skipBlanks text ≠ '\x7d' :: cs)
    (h : readMembers fuel text = some (members, rest)) :
    readValue (fuel + 1) ('\x7b' :: text) = some (object members, rest) := by
  rw [readValue, skipBlanks_cons rfl]
  simp [readMembers_congr (skipBlanks_skipBlanks text), h]

theorem readItems_last (h : readValue fuel text = some (j, rest))
    (hrest : skipBlanks rest = ']' :: after) :
    readItems (fuel + 1) text = some ([j], after) := by
  simp [h, hrest]

theorem readItems_more (h : readValue fuel text = some (j, rest))
    (hrest : skipBlanks rest = ',' :: after)
    (hitems : readItems fuel after = some (items, final)) :
    readItems (fuel + 1) text = some (j :: items, final) := by
  simp [h, hrest, hitems]

theorem skipBlanks_colon (layout : JsonLayout) (text : List Char) :
    ∃ behind, skipBlanks (layout.colon ++ text) = ':' :: behind ∧
      skipBlanks behind = skipBlanks text := by
  cases layout with
  | compact => exact ⟨text, rfl, rfl⟩
  | pretty => exact ⟨' ' :: text, rfl, rfl⟩

theorem readMembers_last (layout : JsonLayout) (key : String)
    (h : readValue fuel text = some (j, rest)) (hrest : skipBlanks rest = '\x7d' :: after) :
    readMembers (fuel + 1) (printString key ++ (layout.colon ++ text)) =
      some ([(key, j)], after) := by
  obtain ⟨behind, hcolon, hblanks⟩ := skipBlanks_colon layout text
  rw [printString_append, readMembers, skipBlanks_cons rfl]
  simp only [readString_printed, hcolon, readValue_congr hblanks, h, hrest, String.ofList_toList]

theorem readMembers_more (layout : JsonLayout) (key : String)
    (h : readValue fuel text = some (j, rest)) (hrest : skipBlanks rest = ',' :: after)
    (hmembers : readMembers fuel after = some (members, final)) :
    readMembers (fuel + 1) (printString key ++ (layout.colon ++ text)) =
      some ((key, j) :: members, final) := by
  obtain ⟨behind, hcolon, hblanks⟩ := skipBlanks_colon layout text
  rw [printString_append, readMembers, skipBlanks_cons rfl]
  simp only [readString_printed, hcolon, readValue_congr hblanks, h, hrest, hmembers,
    Option.map_some, String.ofList_toList]

end Steps

theorem stopsAt_lineBreak {text : List Char} (layout : JsonLayout) (depth : Nat)
    (h : StopsAt Char.isDigit text) :
    StopsAt Char.isDigit (layout.lineBreak depth ++ text) := by
  cases layout with
  | compact => exact h
  | pretty => exact stopsAt_cons rfl _

/-! ## Values read back -/

/-- The value is read back from what is printed of it, whatever follows, if that starts with
no further digit. -/
def ReadsBack (layout : JsonLayout) (j : Json) : Prop :=
  ∀ depth fuel rest, 2 * (j.printAt layout depth).length ≤ fuel → StopsAt Char.isDigit rest →
    readValue fuel (j.printAt layout depth ++ rest) = some (j, rest)

theorem exists_fuel {layout : JsonLayout} {depth fuel : Nat} {j : Json}
    (h : 2 * (j.printAt layout depth).length ≤ fuel) : ∃ f, fuel = f + 1 := by
  obtain ⟨c, cs, hprint, -⟩ := exists_head_printAt layout depth j
  rw [hprint, List.length_cons] at h
  exact ⟨fuel - 1, by omega⟩

theorem readItems_printed (layout : JsonLayout) {depth outer : Nat} (rest : List Char)
    {items : List Json} {item : Json} (h : ∀ j ∈ item :: items, ReadsBack layout j) {fuel : Nat}
    (hfuel : 2 * (item.printAt layout depth).length +
      2 * (printItems layout depth items).length + 1 ≤ fuel) :
    readItems fuel (item.printAt layout depth ++ (printItems layout depth items ++
      (layout.lineBreak outer ++ ']' :: rest))) = some (item :: items, rest) := by
  obtain ⟨fuel, rfl⟩ := Nat.exists_eq_add_of_le' (Nat.le_of_add_left_le hfuel)
  induction items generalizing item fuel with
  | nil =>
      have hclose : StopsAt Char.isDigit (layout.lineBreak outer ++ ']' :: rest) :=
        stopsAt_lineBreak layout outer (stopsAt_cons rfl rest)
      rw [printItems, List.nil_append]
      refine readItems_last (h item List.mem_cons_self depth fuel _ (by omega) hclose) ?_
      rw [skipBlanks_lineBreak, skipBlanks_cons rfl]
  | cons next items ih =>
      obtain ⟨hitem, hitems⟩ := List.forall_mem_cons.1 h
      simp only [printItems, List.cons_append, List.append_assoc, List.length_cons,
        List.length_append] at hfuel ⊢
      -- The comma pays for the step to the next item.
      obtain ⟨fuel, rfl⟩ : ∃ f, fuel = f + 1 := ⟨fuel - 1, by omega⟩
      refine readItems_more (hitem depth _ _ (by omega) (stopsAt_cons rfl _))
        (skipBlanks_cons rfl _) ?_
      rw [readItems_congr (skipBlanks_lineBreak layout depth _)]
      exact ih hitems fuel (by omega)

theorem readMembers_printed (layout : JsonLayout) {depth outer : Nat} (rest : List Char)
    {members : List (String × Json)} {key : String} {value : Json}
    (h : ∀ m ∈ (key, value) :: members, ReadsBack layout m.2) {fuel : Nat}
    (hfuel : 2 * (value.printAt layout depth).length +
      2 * (printMembers layout depth members).length + 1 ≤ fuel) :
    readMembers fuel (printString key ++ (layout.colon ++ (value.printAt layout depth ++
      (printMembers layout depth members ++ (layout.lineBreak outer ++ '\x7d' :: rest))))) =
        some ((key, value) :: members, rest) := by
  obtain ⟨fuel, rfl⟩ := Nat.exists_eq_add_of_le' (Nat.le_of_add_left_le hfuel)
  induction members generalizing key value fuel with
  | nil =>
      have hvalue : ReadsBack layout value := h _ List.mem_cons_self
      have hclose : StopsAt Char.isDigit (layout.lineBreak outer ++ '\x7d' :: rest) :=
        stopsAt_lineBreak layout outer (stopsAt_cons rfl rest)
      rw [printMembers, List.nil_append]
      refine readMembers_last layout key (hvalue depth fuel _ (by omega) hclose) ?_
      rw [skipBlanks_lineBreak, skipBlanks_cons rfl]
  | cons next members ih =>
      obtain ⟨nextKey, nextValue⟩ := next
      obtain ⟨hvalue, hmembers⟩ := List.forall_mem_cons.1 h
      simp only [printMembers, List.cons_append, List.append_assoc, List.length_cons,
        List.length_append] at hfuel hvalue ⊢
      obtain ⟨fuel, rfl⟩ : ∃ f, fuel = f + 1 := ⟨fuel - 1, by omega⟩
      refine readMembers_more layout key (hvalue depth _ _ (by omega) (stopsAt_cons rfl _))
        (skipBlanks_cons rfl _) ?_
      rw [readMembers_congr (skipBlanks_lineBreak layout depth _)]
      exact ih hmembers fuel (by omega)

theorem readsBack (layout : JsonLayout) (j : Json) : ReadsBack layout j := by
  induction j using recOnParts with
  | null =>
      intro depth fuel rest hfuel _
      obtain ⟨fuel, rfl⟩ := exists_fuel hfuel
      rfl
  | bool b =>
      intro depth fuel rest hfuel _
      obtain ⟨fuel, rfl⟩ := exists_fuel hfuel
      cases b <;> rfl
  | number n =>
      intro depth fuel rest hfuel hrest
      obtain ⟨fuel, rfl⟩ := exists_fuel hfuel
      obtain ⟨c, cs, hprint, hc⟩ := exists_head_printNumber n
      have hread := readNumber_printNumber n hrest
      rw [hprint, List.cons_append] at hread
      rw [printAt, hprint, List.cons_append]
      exact readValue_number hc hread
  | string s =>
      intro depth fuel rest hfuel _
      obtain ⟨fuel, rfl⟩ := exists_fuel hfuel
      exact readValue_string s
  | array items ih =>
      intro depth fuel rest hfuel _
      obtain ⟨fuel, rfl⟩ := exists_fuel hfuel
      cases items with
      | nil => rfl
      | cons item items =>
          obtain ⟨c, cs, hhead, hblank, hc⟩ := exists_head_printAt layout (depth + 1) item
          simp only [printAt, List.cons_append, List.append_assoc, List.length_cons,
            List.length_append, List.nil_append] at hfuel ⊢
          apply readValue_array
          · intro text
            rw [skipBlanks_lineBreak, hhead, List.cons_append, skipBlanks_cons hblank]
            exact fun h => hc (List.cons.inj h).1
          · rw [readItems_congr (skipBlanks_lineBreak layout (depth + 1) _)]
            exact readItems_printed layout rest ih (by omega)
  | object members ih =>
      intro depth fuel rest hfuel _
      obtain ⟨fuel, rfl⟩ := exists_fuel hfuel
      cases members with
      | nil => rfl
      | cons member members =>
          obtain ⟨key, value⟩ := member
          simp only [printAt, List.cons_append, List.append_assoc, List.length_cons,
            List.length_append, List.nil_append] at hfuel ⊢
          apply readValue_object
          · intro text
            rw [skipBlanks_lineBreak, printString_append, skipBlanks_cons rfl]
            exact fun h => absurd (List.cons.inj h).1 (by decide)
          · rw [readMembers_congr (skipBlanks_lineBreak layout (depth + 1) _)]
            exact readMembers_printed layout rest ih (by omega)

theorem parse?_print (layout : JsonLayout) (j : Json) : parse? (j.print layout) = some j := by
  have hread : readValue (2 * (j.print layout).length + 1) (j.print layout ++ []) =
      some (j, []) :=
    readsBack layout j 0 _ [] (Nat.le_succ _) (stopsAt_nil _)
  rw [List.append_nil] at hread
  rw [parse?, hread]
  rfl

theorem print_injective {layout layout' : JsonLayout} {j j' : Json}
    (h : j.print layout = j'.print layout') : j = j' := by
  have hparse := parse?_print layout j
  rw [h, parse?_print layout' j'] at hparse
  exact (Option.some.inj hparse).symm

def NoControl (text : List Char) : Prop :=
  ∀ c ∈ text, 0x20 ≤ c.toNat

instance (text : List Char) : Decidable (NoControl text) :=
  decidable_of_iff (text.all fun c => decide (0x20 ≤ c.toNat)) (by simp [NoControl])

@[simp] theorem noControl_append {s t : List Char} :
    NoControl (s ++ t) ↔ NoControl s ∧ NoControl t :=
  List.forall_mem_append

@[simp] theorem noControl_cons {c : Char} {cs : List Char} :
    NoControl (c :: cs) ↔ 0x20 ≤ c.toNat ∧ NoControl cs :=
  List.forall_mem_cons

@[simp] theorem noControl_nil : NoControl [] := by
  intro c hc
  cases hc

theorem noControl_escape (c : Char) : NoControl (escape c) := by
  have hdigit : ∀ d < 16, 0x20 ≤ d.digitChar.toNat := by decide
  unfold escape
  split
  case h_8 =>
    split_ifs with hcontrol
    · have hhigh := hdigit (c.toNat / 16) (by omega)
      have hlow := hdigit (c.toNat % 16) (by omega)
      simp [hhigh, hlow]
    · simpa using hcontrol
  all_goals simp

theorem noControl_printString (s : String) : NoControl (printString s) := by
  have hall : NoControl (s.toList.flatMap escape) := by
    intro c hc
    obtain ⟨d, -, hd⟩ := List.mem_flatMap.1 hc
    exact noControl_escape d c hd
  simp [printString, hall]

theorem noControl_printNumber (n : Int) : NoControl (printNumber n) := by
  have hall : ∀ n, NoControl (Nat.toDigits 10 n) := by
    intro n c hc
    have hdigit := isDigit_of_mem_toDigits hc
    rw [Char.isDigit, Bool.and_eq_true, decide_eq_true_eq] at hdigit
    exact Nat.le_trans (by decide) hdigit.1
  cases n <;> simp [printNumber, hall]

def OnlyBreaks (layout : JsonLayout) (text : List Char) : Prop :=
  ∀ c ∈ text, 0x20 ≤ c.toNat ∨ ∃ depth, c ∈ layout.lineBreak depth

section OnlyBreaks

variable {layout : JsonLayout} {depth : Nat}

@[simp] theorem onlyBreaks_append {s t : List Char} :
    OnlyBreaks layout (s ++ t) ↔ OnlyBreaks layout s ∧ OnlyBreaks layout t :=
  List.forall_mem_append

theorem NoControl.onlyBreaks {text : List Char} (h : NoControl text) :
    OnlyBreaks layout text :=
  fun c hc => .inl (h c hc)

@[simp] theorem onlyBreaks_cons {c : Char} {cs : List Char} (hc : 0x20 ≤ c.toNat) :
    OnlyBreaks layout (c :: cs) ↔ OnlyBreaks layout cs := by
  rw [OnlyBreaks, List.forall_mem_cons, and_iff_right (.inl hc), OnlyBreaks]

@[simp] theorem onlyBreaks_lineBreak : OnlyBreaks layout (layout.lineBreak depth) :=
  fun _ hc => .inr ⟨depth, hc⟩

@[simp] theorem onlyBreaks_printString (s : String) : OnlyBreaks layout (printString s) :=
  (noControl_printString s).onlyBreaks

@[simp] theorem onlyBreaks_colon : OnlyBreaks layout layout.colon := by
  apply NoControl.onlyBreaks
  cases layout <;> simp [JsonLayout.colon]

theorem onlyBreaks_printItems {items : List Json}
    (h : ∀ j ∈ items, OnlyBreaks layout (j.printAt layout depth)) :
    OnlyBreaks layout (printItems layout depth items) := by
  induction items with
  | nil => exact noControl_nil.onlyBreaks
  | cons item items ih =>
      obtain ⟨hitem, hitems⟩ := List.forall_mem_cons.1 h
      simp [printItems, hitem, ih hitems]

theorem onlyBreaks_printMembers {members : List (String × Json)}
    (h : ∀ m ∈ members, OnlyBreaks layout (m.2.printAt layout depth)) :
    OnlyBreaks layout (printMembers layout depth members) := by
  induction members with
  | nil => exact noControl_nil.onlyBreaks
  | cons member members ih =>
      obtain ⟨key, value⟩ := member
      obtain ⟨hvalue, hmembers⟩ := List.forall_mem_cons.1 h
      simp [printMembers, hvalue, ih hmembers]

theorem onlyBreaks_printAt (j : Json) (depth : Nat) :
    OnlyBreaks layout (j.printAt layout depth) := by
  have hend : ∀ c : Char, 0x20 ≤ c.toNat → OnlyBreaks layout [c] := by
    intro c hc
    exact (onlyBreaks_cons hc).2 noControl_nil.onlyBreaks
  induction j using recOnParts generalizing depth with
  | null => exact NoControl.onlyBreaks (by simp [printAt])
  | bool b => exact NoControl.onlyBreaks (by cases b <;> simp [printAt])
  | number n => exact (noControl_printNumber n).onlyBreaks
  | string s => exact onlyBreaks_printString s
  | array items ih =>
      cases items with
      | nil => exact NoControl.onlyBreaks (by simp [printAt])
      | cons item items =>
          obtain ⟨hitem, hitems⟩ := List.forall_mem_cons.1 ih
          have hrest := onlyBreaks_printItems fun j hj => hitems j hj (depth + 1)
          simp [printAt, hitem, hrest, hend]
  | object members ih =>
      cases members with
      | nil => exact NoControl.onlyBreaks (by simp [printAt])
      | cons member members =>
          obtain ⟨key, value⟩ := member
          obtain ⟨hvalue, hmembers⟩ := List.forall_mem_cons.1 ih
          have hrest := onlyBreaks_printMembers fun m hm => hmembers m hm (depth + 1)
          simp [printAt, hvalue, hrest, hend]

end OnlyBreaks

theorem noControl_print (j : Json) : NoControl (j.print .compact) := by
  intro c hc
  rcases onlyBreaks_printAt j 0 c hc with hc | ⟨depth, hc⟩
  · exact hc
  · simp [JsonLayout.lineBreak] at hc

end ChatTriage.Json
