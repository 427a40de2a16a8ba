import ChatTriage.Conflict.Resolution
import Mathlib.Data.List.Nodup
import Mathlib.Data.List.Perm.Subperm

/-!
# Lists of candidates

Which languages a list of candidates is about, how a candidate is looked up, and which
candidates are ahead of the others.
-/

namespace ChatTriage.Candidate

/-- The languages in the running, with repetitions. -/
def languages (cs : List Candidate) : List Language :=
  cs.map (·.language)

@[simp] theorem languages_nil : languages [] = [] :=
  rfl

@[simp] theorem languages_cons (c : Candidate) (cs : List Candidate) :
    languages (c :: cs) = c.language :: languages cs :=
  rfl

@[simp] theorem languages_append (cs ds : List Candidate) :
    languages (cs ++ ds) = languages cs ++ languages ds :=
  List.map_append

@[simp] theorem length_languages (cs : List Candidate) :
    (languages cs).length = cs.length :=
  List.length_map _

theorem mem_languages {l : Language} {cs : List Candidate} :
    l ∈ languages cs ↔ ∃ c ∈ cs, c.language = l :=
  List.mem_map

theorem language_mem {c : Candidate} {cs : List Candidate} (h : c ∈ cs) :
    c.language ∈ languages cs :=
  List.mem_map_of_mem h

theorem languages_subperm {cs ds : List Candidate} (h : ds.Subperm cs) :
    (languages ds).Subperm (languages cs) := by
  obtain ⟨es, hperm, hsub⟩ := h
  exact ⟨languages es, hperm.map _, hsub.map _⟩

theorem languages_nodup {cs ds : List Candidate} (h : ds.Subperm cs)
    (hcs : (languages cs).Nodup) : (languages ds).Nodup := by
  obtain ⟨ls, hperm, hsub⟩ := languages_subperm h
  exact hperm.nodup (hsub.nodup hcs)

theorem find?_eq_some {c : Candidate} {cs : List Candidate} {l : Language}
    (h : find? cs l = some c) : c ∈ cs ∧ c.language = l :=
  ⟨List.mem_of_find?_eq_some h, by simpa using List.find?_some h⟩

theorem isSome_find? {cs : List Candidate} {l : Language} :
    (find? cs l).isSome = true ↔ l ∈ languages cs := by
  rw [find?, List.find?_isSome, mem_languages]
  simp

theorem find?_eq_none {cs : List Candidate} {l : Language} :
    find? cs l = none ↔ l ∉ languages cs := by
  rw [← isSome_find?, Option.not_isSome_iff_eq_none]

theorem languages_filterMap_find? (cs : List Candidate) (ls : List Language) :
    languages (ls.filterMap (find? cs)) = ls.filter (· ∈ languages cs) := by
  induction ls with
  | nil => rfl
  | cons l ls ih =>
      cases hl : find? cs l with
      | none =>
          have hmem := find?_eq_none.1 hl
          simp [hl, hmem, ih]
      | some c =>
          obtain ⟨hc, rfl⟩ := find?_eq_some hl
          simp [hl, language_mem hc, ih]

theorem eq_of_language_eq {cs : List Candidate} (hcs : (languages cs).Nodup)
    {c d : Candidate} (hc : c ∈ cs) (hd : d ∈ cs) (h : c.language = d.language) : c = d :=
  List.inj_on_of_nodup_map hcs hc hd h

theorem find?_eq_some_iff {cs : List Candidate} (hcs : (languages cs).Nodup) {l : Language}
    {c : Candidate} : find? cs l = some c ↔ c ∈ cs ∧ c.language = l := by
  refine ⟨find?_eq_some, ?_⟩
  rintro ⟨hc, rfl⟩
  obtain ⟨d, hd⟩ := Option.isSome_iff_exists.1 (isSome_find?.2 (language_mem hc))
  obtain ⟨hmem, hlanguage⟩ := find?_eq_some hd
  rw [hd, eq_of_language_eq hcs hmem hc hlanguage]

theorem find?_perm {cs ds : List Candidate} (hcs : (languages cs).Nodup)
    (hperm : cs.Perm ds) : find? cs = find? ds := by
  have hds : (languages ds).Nodup := (hperm.map _).nodup hcs
  funext l
  ext c
  rw [find?_eq_some_iff hcs, find?_eq_some_iff hds, hperm.mem_iff]

/-! ## Who is ahead -/

theorem foldl_isAhead_mem (cs : List Candidate) (c : Candidate) :
    cs.foldl (fun best d => if d.isAhead best then d else best) c ∈ c :: cs := by
  induction cs generalizing c with
  | nil => simp
  | cons d cs ih =>
      rw [List.foldl_cons]
      have hmem := ih (if d.isAhead c then d else c)
      rcases List.mem_cons.1 hmem with heq | hmem
      · rw [heq]
        split_ifs <;> simp
      · exact List.mem_cons_of_mem c (List.mem_cons_of_mem d hmem)

theorem winner_mem {cs : List Candidate} {w : Candidate} (h : winner cs = some w) :
    w ∈ cs := by
  cases cs with
  | nil => simp [winner] at h
  | cons c cs =>
      rw [winner, Option.some.injEq] at h
      exact h ▸ foldl_isAhead_mem cs c

theorem exists_winner {cs : List Candidate} (h : cs ≠ []) : ∃ w, winner cs = some w := by
  cases cs with
  | nil => exact absurd rfl h
  | cons c cs => exact ⟨_, rfl⟩

theorem tied_subset (cs : List Candidate) : tied cs ⊆ languages cs := by
  intro l hl
  unfold tied at hl
  dsimp only at hl
  split_ifs at hl with hfew
  · simp at hl
  · obtain ⟨c, hc, heq⟩ := List.any_eq_true.1 (List.mem_filter.1 hl).2
    rw [Bool.and_eq_true, beq_iff_eq] at heq
    exact mem_languages.2 ⟨c, hc, heq.1⟩

end ChatTriage.Candidate
