import ChatTriage.Pattern.Layout
import ChatTriage.Proofs.SetSize
import Mathlib.Algebra.BigOperators.Group.List.Basic

/-!
# The size of automata

A bound for the bytes that the automaton of a pattern takes, forward and backward, found from
the shape of the pattern alone: no automaton is laid out for it.
-/

namespace ChatTriage

open Unicode

theorem Layout.bytes_foldl_le {α : Type} {f : Layout → α → Layout} {bound : α → Nat}
    (h : ∀ l a, (f l a).bytes ≤ l.bytes + bound a) (as : List α) (l : Layout) :
    (as.foldl f l).bytes ≤ l.bytes + (as.map bound).sum := by
  induction as generalizing l with
  | nil => exact Nat.le_refl _
  | cons a as ih =>
      rw [List.foldl_cons, List.map_cons, List.sum_cons]
      have hfirst := h l a
      have hrest := ih (f l a)
      omega

namespace LayoutStep

variable {limit n : Nat} {step : LayoutStep}

/-- The step adds `n` bytes at most, whatever is laid out already. -/
def AddsAtMost (step : LayoutStep) (n : Nat) : Prop :=
  ∀ l, (step.apply l).bytes ≤ l.bytes + n

theorem AddsAtMost.mono {m : Nat} (h : step.AddsAtMost n) (hle : n ≤ m) :
    step.AddsAtMost m := fun l =>
  Nat.le_trans (h l) (Nat.add_le_add_left hle _)

theorem states_addsAtMost (n extra : Nat) : (states n extra).AddsAtMost (32 * n + extra) :=
  fun l => Nat.le_of_eq (Layout.bytes_add l n extra)

theorem row_nil_addsAtMost : (row limit []).AddsAtMost 0 := fun _ => Nat.le_refl _

theorem row_cons_addsAtMost {m : Nat} {steps : List LayoutStep} (h : step.AddsAtMost m)
    (hs : (row limit steps).AddsAtMost n) : (row limit (step :: steps)).AddsAtMost (m + n) := by
  intro l
  change ((row limit steps).apply (if limit < l.bytes then l else step.apply l)).bytes ≤ _
  split
  · exact Nat.le_trans (hs l) (by omega)
  · have hfirst := h l
    have hrest := hs (step.apply l)
    omega

theorem row_addsAtMost {α : Type} {steps : α → LayoutStep} {bound : α → Nat} {as : List α}
    (h : ∀ a ∈ as, (steps a).AddsAtMost (bound a)) :
    (row limit (as.map steps)).AddsAtMost (as.map bound).sum := by
  induction as with
  | nil => exact row_nil_addsAtMost
  | cons a as ih =>
      obtain ⟨ha, has⟩ := List.forall_mem_cons.1 h
      rw [List.map_cons, List.map_cons, List.sum_cons]
      exact row_cons_addsAtMost ha (ih has)

theorem row_pair_addsAtMost {m : Nat} {next : LayoutStep} (h : step.AddsAtMost m)
    (hnext : next.AddsAtMost n) : (row limit [step, next]).AddsAtMost (m + n) :=
  row_cons_addsAtMost h (row_cons_addsAtMost hnext row_nil_addsAtMost)

theorem times_addsAtMost (h : step.AddsAtMost n) (count : Nat) :
    AddsAtMost ⟨step.times limit count⟩ (count * n) := fun l => by
  change (step.times limit count l).bytes ≤ _
  induction count generalizing l with
  | zero => exact Nat.le_add_right _ _
  | succ count ih =>
      rw [times, Nat.succ_mul]
      split
      · exact Nat.le_add_right _ _
      · have hstep := h l
        have hrest := ih (step.apply l)
        omega

/-- A choice takes a branch for each of its steps beside them, and two states. -/
theorem choice_addsAtMost {α : Type} {steps : α → LayoutStep} {bound : α → Nat} {as : List α}
    (h : ∀ a ∈ as, (steps a).AddsAtMost (bound a)) :
    (choice limit (as.map steps)).AddsAtMost ((as.map bound).sum + 4 * as.length + 64) := by
  match as with
  | [] => exact (states_addsAtMost 1 0).mono (by simp)
  | [a] =>
      refine (h a (by simp)).mono ?_
      rw [List.map_singleton, List.sum_singleton]
      omega
  | a :: b :: others =>
      obtain ⟨ha, hrest⟩ := List.forall_mem_cons.1 h
      obtain ⟨hb, hothers⟩ := List.forall_mem_cons.1 hrest
      have hfork := states_addsAtMost 2 ((others.length + 2) * Layout.branch)
      have hrow : (row limit (others.map steps)).AddsAtMost (others.map bound).sum :=
        row_addsAtMost hothers
      simp only [List.map_cons, choice, List.length_map]
      refine (row_cons_addsAtMost ha (row_cons_addsAtMost hb
        (row_cons_addsAtMost hfork hrow))).mono ?_
      simp only [List.sum_cons, List.length_cons, Layout.branch]
      omega

/-- A fixed number of times, and from there on up to a limit each time by choice. -/
theorem times_optional_addsAtMost (h : step.AddsAtMost n) {required : LayoutStep} {low : Nat}
    (hrequired : required.AddsAtMost (low * n + 32)) (high : Nat) :
    (row limit [required, states 1 0,
      ⟨(row limit [states 1 (2 * Layout.branch), step]).times limit (high - low)⟩]).AddsAtMost
        (max low high * (n + 40) + 112) := by
  have hpair : (row limit [states 1 (2 * Layout.branch), step]).AddsAtMost (40 + n) :=
    row_pair_addsAtMost (states_addsAtMost 1 (2 * Layout.branch)) h
  have hoptional : AddsAtMost ⟨(row limit [states 1 (2 * Layout.branch), step]).times limit
      (high - low)⟩ ((high - low) * (40 + n)) := times_addsAtMost hpair (high - low)
  refine (row_cons_addsAtMost hrequired
    (row_pair_addsAtMost (states_addsAtMost 1 0) hoptional)).mono ?_
  rcases Nat.le_total low high with hle | hle
  · obtain ⟨more, rfl⟩ := Nat.exists_eq_add_of_le hle
    rw [Nat.max_eq_right hle, Nat.add_sub_cancel_left]
    simp only [Nat.add_mul, Nat.mul_add]
    omega
  · rw [Nat.max_eq_left hle, Nat.sub_eq_zero_of_le hle, Nat.zero_mul, Nat.mul_add]
    omega

theorem repeated_addsAtMost (h : step.AddsAtMost n) (takesCharacter : Bool) (low : Nat)
    (high : Option Nat) :
    (repeated limit step takesCharacter low high).AddsAtMost
      (max low (high.getD 1) * (n + 40) + 112) := by
  have hbranch : (states 1 (2 * Layout.branch)).AddsAtMost 40 := states_addsAtMost 1 8
  have hempty : (states 1 0).AddsAtMost 32 := states_addsAtMost 1 0
  have htimes : ∀ count, AddsAtMost ⟨step.times limit count⟩ (count * n) :=
    times_addsAtMost h
  have hmul : ∀ low high : Nat, low * n ≤ max low high * (n + 40) := fun low high =>
    Nat.mul_le_mul (Nat.le_max_left _ _) (Nat.le_add_right _ _)
  unfold repeated
  split
  · split
    · exact (row_pair_addsAtMost hbranch h).mono (by simp; omega)
    · exact (row_pair_addsAtMost h (states_addsAtMost 3 (4 * Layout.branch))).mono
        (by simp [Layout.branch])
  · have hle := hmul low 1
    refine (row_pair_addsAtMost (htimes low) hbranch).mono ?_
    rw [Option.getD_none]
    omega
  · exact (row_cons_addsAtMost hempty (row_pair_addsAtMost h hbranch)).mono (by simp; omega)
  · rename_i high _
    have hle := hmul low high
    rw [Option.getD_some]
    split
    · exact (htimes low).mono (by omega)
    · refine times_optional_addsAtMost h ?_ high
      split
      · exact hempty.mono (by omega)
      · exact (htimes low).mono (by omega)

end LayoutStep

/-! ## Words -/

namespace Layout

variable {α : Type} [DecidableEq α]

/-- Each byte of a word takes a state, and the branches to it and from it are paid for as well;
that the word comes to an end takes a branch and may take one more state. -/
def roomOfWords (words : List (List α)) : Nat :=
  (words.map fun word => 80 * word.length + 36).sum

omit [DecidableEq α] in
theorem roomOfWords_eq (words : List (List α)) :
    roomOfWords words = (words.map fun word => 80 * word.length).sum + words.length * 36 := by
  rw [roomOfWords, List.sum_map_add, List.map_const', List.sum_replicate_nat]

omit [DecidableEq α] in
theorem roomOfWords_append (words more : List (List α)) :
    roomOfWords (words ++ more) = roomOfWords words + roomOfWords more := by
  rw [roomOfWords, List.map_append, List.sum_append]
  rfl

/-- What the words may take that stand behind their first bytes. -/
def roomOfGroups (gs : List (α × List (List α))) : Nat :=
  (gs.map fun g => roomOfWords g.2).sum

theorem roomOfGroups_putWord (first : α) (rest : List α) (gs : List (α × List (List α))) :
    roomOfGroups (putWord first rest gs) = roomOfGroups gs + (80 * rest.length + 36) ∧
      (putWord first rest gs).length ≤ gs.length + 1 := by
  induction gs with
  | nil => exact ⟨by simp [putWord, roomOfGroups, roomOfWords], Nat.le_refl _⟩
  | cons g gs ih =>
      obtain ⟨b, rests⟩ := g
      unfold putWord
      split
      · refine ⟨?_, Nat.le_succ _⟩
        simp only [roomOfGroups, roomOfWords, List.map_cons, List.sum_cons]
        omega
      · obtain ⟨hroom, hlength⟩ := ih
        refine ⟨?_, Nat.succ_le_succ hlength⟩
        unfold roomOfGroups at hroom ⊢
        rw [List.map_cons, List.sum_cons, hroom, List.map_cons, List.sum_cons]
        omega

theorem roomOfGroups_le (words : List (List α)) :
    roomOfGroups (groups words) + 44 * (groups words).length ≤
      (words.map fun word => 80 * word.length).sum := by
  induction words with
  | nil => exact Nat.le_refl _
  | cons word words ih =>
      rw [List.map_cons, List.sum_cons]
      cases word with
      | nil => exact Nat.le_trans ih (Nat.le_add_left _ _)
      | cons first rest =>
          obtain ⟨hroom, hlength⟩ := roomOfGroups_putWord first rest (groups words)
          change roomOfGroups (putWord first rest (groups words)) +
            44 * (putWord first rest (groups words)).length ≤ _
          rw [hroom, List.length_cons]
          omega

omit [DecidableEq α] in
theorem length_runs_le (words : List (List α)) : (runs words).length ≤ words.length + 1 := by
  induction words with
  | nil => exact Nat.le_refl _
  | cons word words ih =>
      cases word with
      | nil => exact Nat.succ_le_succ ih
      | cons first rest =>
          unfold runs
          split
          next => exact Nat.succ_le_succ (Nat.zero_le _)
          next hruns =>
            rw [hruns] at ih
            exact Nat.le_succ_of_le ih

omit [DecidableEq α] in
theorem sum_runs (words : List (List α)) :
    ((runs words).map fun run => (run.map fun word => 80 * word.length).sum).sum =
      (words.map fun word => 80 * word.length).sum := by
  induction words with
  | nil => rfl
  | cons word words ih =>
      cases word with
      | nil =>
          unfold runs
          simpa using ih
      | cons first rest =>
          unfold runs
          split
          next hruns =>
            rw [hruns] at ih
            simp only [List.map_cons, List.map_nil, List.sum_cons, List.sum_nil] at ih ⊢
            omega
          next hruns =>
            rw [hruns] at ih
            simp only [List.map_cons, List.sum_cons] at ih ⊢
            omega

theorem sum_roomOfGroups_le (words : List (List α)) :
    ((((runs words).map groups).filter (!·.isEmpty)).map
        fun gs => 32 + 8 * gs.length + roomOfGroups gs).sum +
      4 * (((runs words).map groups).filter (!·.isEmpty)).length ≤
        (words.map fun word => 80 * word.length).sum := by
  rw [← sum_runs]
  induction runs words with
  | nil => exact Nat.le_refl _
  | cons run rest ih =>
      have hrun := roomOfGroups_le run
      rw [List.map_cons, List.map_cons, List.sum_cons]
      cases hgroups : (groups run).isEmpty with
      | true =>
          rw [List.filter_cons_of_neg (by simp [hgroups])]
          exact Nat.le_trans ih (Nat.le_add_left _ _)
      | false =>
          have hlength : 0 < (groups run).length := by
            rw [List.length_pos_iff, ← List.isEmpty_eq_false_iff, hgroups]
          rw [List.filter_cons_of_pos (by simp [hgroups]), List.map_cons, List.sum_cons,
            List.length_cons]
          omega

/-- A group has a state that branches to its words, unless it has only one. -/
theorem bytes_addGroup_le {fuel : Nat}
    (h : ∀ (words : List (List α)) (l : Layout),
      (addWords fuel words l).bytes ≤ l.bytes + roomOfWords words)
    (l : Layout) (gs : List (α × List (List α))) :
    (gs.foldl (fun l g => addWords fuel g.2 l)
      (l.add 1 (if gs.length = 1 then 0 else gs.length * transition))).bytes ≤
        l.bytes + (32 + 8 * gs.length + roomOfGroups gs) := by
  have hextra : (if gs.length = 1 then 0 else gs.length * transition) ≤ 8 * gs.length := by
    unfold transition
    split <;> omega
  have hfold := bytes_foldl_le (fun l (g : α × List (List α)) => h g.2 l) gs
    (l.add 1 (if gs.length = 1 then 0 else gs.length * transition))
  rw [bytes_add] at hfold
  unfold roomOfGroups
  omega

theorem bytes_addWords_le (fuel : Nat) (words : List (List α)) (l : Layout) :
    (addWords fuel words l).bytes ≤ l.bytes + roomOfWords words := by
  induction fuel generalizing words l with
  | zero => exact Nat.le_add_right _ _
  | succ fuel ih =>
      unfold addWords
      split
      · exact Nat.le_add_right _ _
      · rename_i hwords
        refine Nat.le_trans (bytes_foldl_le (bytes_addGroup_le ih) _ _) ?_
        -- The words that are over pay for the branch to the end, the others for their groups.
        have hsplit := roomOfWords_append (words.takeWhile List.isEmpty)
          (words.dropWhile List.isEmpty)
        rw [List.takeWhile_append_dropWhile, roomOfWords_eq, roomOfWords_eq,
          roomOfWords_eq] at hsplit
        have hrooms := sum_roomOfGroups_le (words.dropWhile List.isEmpty)
        have hruns := length_runs_le (words.dropWhile List.isEmpty)
        have hended : (if (words.takeWhile List.isEmpty).isEmpty then 0 else 1) ≤
            (words.takeWhile List.isEmpty).length := by
          cases words.takeWhile List.isEmpty <;> simp
        have hpos : 0 < (words.takeWhile List.isEmpty).length +
            (words.dropWhile List.isEmpty).length := by
          rw [← List.length_append, List.takeWhile_append_dropWhile]
          refine List.length_pos_iff.2 fun hnil => hwords ?_
          rw [hnil]
          rfl
        rw [bytes_add, roomOfWords_eq]
        unfold branch
        omega

end Layout

theorem LayoutStep.words_addsAtMost {α : Type} [DecidableEq α] (words : List (List α)) :
    (LayoutStep.words words).AddsAtMost (Layout.roomOfWords words + 32) := by
  refine (states_addsAtMost _ _).mono ?_
  have hle := Layout.bytes_addWords_le ((words.map List.length).foldl max 0 + 1) words .empty
  have hempty : Layout.empty.bytes = 0 := rfl
  rw [hempty, Layout.bytes] at hle
  omega

/-! ## Sets of characters -/

namespace Unicode.ByteTree

def size : ByteTree → Nat
  | nil => 0
  | cons _ below others => below.size + others.size + 1

theorem size_ofRow (row : List ByteRange) : (ofRow row).size = row.length := by
  induction row with
  | nil => rfl
  | cons r row ih => rw [ofRow, size, ih, size, List.length_cons]

theorem size_putFirst_le (row : List ByteRange) (t : ByteTree) :
    (putFirst row t).size ≤ row.length + t.size := by
  induction row generalizing t with
  | nil =>
      rw [putFirst]
      exact Nat.le_add_left _ _
  | cons r row ih =>
      cases t with
      | nil =>
          rw [putFirst, size_ofRow]
          · exact Nat.le_add_right _ _
          · simp
      | cons first below others =>
          have hbelow := ih below
          rw [putFirst]
          split
          · simp only [size, List.length_cons]
            omega
          · simp only [size, size_ofRow, List.length_cons]
            omega

theorem size_ofRows_le (rows : List (List ByteRange)) :
    (ofRows rows).size ≤ (rows.map List.length).sum := by
  induction rows with
  | nil => exact Nat.le_refl _
  | cons row rows ih =>
      rw [List.map_cons, List.sum_cons]
      exact Nat.le_trans (size_putFirst_le row _) (Nat.add_le_add_left ih _)

end Unicode.ByteTree

namespace TabledLayout

theorem bytes_stateFor_le (t : TabledLayout) (key : List Nat) (extra : Nat) :
    (t.stateFor key extra).2.layout.bytes ≤ t.layout.bytes + (32 + extra) := by
  unfold stateFor
  simp only []
  split
  · exact Nat.le_add_right _ _
  · exact Nat.le_of_eq (Layout.bytes_add _ _ _)

theorem bytes_stateWith_le (target : Nat) (transitions : List (ByteRange × Nat))
    (t : TabledLayout) :
    (stateWith target transitions t).2.layout.bytes ≤
      t.layout.bytes + (32 + 8 * transitions.length) := by
  unfold stateWith
  split
  · exact Nat.le_add_right _ _
  · refine Nat.le_trans (t.bytes_stateFor_le _ _) ?_
    unfold Layout.transition
    omega

/-- The transitions are paid for here, although their state is laid out later. -/
theorem bytes_addBranches_le (target : Nat) (tree : ByteTree) (t : TabledLayout) :
    (addBranches target tree t).2.layout.bytes + 8 * (addBranches target tree t).1.length ≤
      t.layout.bytes + 40 * tree.size := by
  induction tree generalizing t with
  | nil => exact Nat.le_refl _
  | cons first below others hbelow hothers =>
      have h1 := hbelow t
      have h2 := bytes_stateWith_le target (addBranches target below t).1
        (addBranches target below t).2
      have h3 := hothers (stateWith target (addBranches target below t).1
        (addBranches target below t).2).2
      simp only [addBranches, ByteTree.size, List.length_cons]
      omega

theorem bytes_addRow_le (next : Nat) (row : List ByteRange) (t : TabledLayout) :
    (addRow next row t).layout.bytes ≤ t.layout.bytes + 32 * row.length := by
  induction row generalizing next t with
  | nil => exact Nat.le_refl _
  | cons r row ih =>
      have hfirst := t.bytes_stateFor_le [next, r.low, r.high] 0
      have hrest := ih (t.stateFor [next, r.low, r.high] 0).1
        (t.stateFor [next, r.low, r.high] 0).2
      simp only [addRow, List.length_cons]
      omega

theorem bytes_foldl_addRow_le (next : Nat) (rows : List (List ByteRange))
    (t : TabledLayout) :
    (rows.foldl (fun t row => t.addRow next row) t).layout.bytes ≤
      t.layout.bytes + 32 * (rows.map List.length).sum := by
  induction rows generalizing t with
  | nil => exact Nat.le_refl _
  | cons row rows ih =>
      have hfirst := t.bytes_addRow_le next row
      have hrest := ih (t.addRow next row)
      simp only [List.foldl_cons, List.map_cons, List.sum_cons]
      omega

end TabledLayout

namespace LayoutStep

theorem ofTree_addsAtMost (tree : ByteTree) : (ofTree tree).AddsAtMost (40 * tree.size + 64) := by
  intro l
  have hbranches := TabledLayout.bytes_addBranches_le l.states tree (.start 10000 (l.add 1 0))
  have hstate := TabledLayout.bytes_stateWith_le l.states
    (TabledLayout.addBranches l.states tree (.start 10000 (l.add 1 0))).1
    (TabledLayout.addBranches l.states tree (.start 10000 (l.add 1 0))).2
  have hstart : (TabledLayout.start 10000 (l.add 1 0)).layout.bytes = l.bytes + 32 :=
    Layout.bytes_add l 1 0
  simp only [ofTree]
  omega

theorem ofRows_addsAtMost (rows : List (List ByteRange)) :
    (ofRows rows).AddsAtMost (32 * (rows.map List.length).sum + 4 * rows.length + 64) := by
  intro l
  have hrows := TabledLayout.bytes_foldl_addRow_le (l.states + 1) rows
    (.start 1000 (l.add 2 (rows.length * Layout.branch)))
  have hstart : (TabledLayout.start 1000 (l.add 2 (rows.length * Layout.branch))).layout.bytes =
      l.bytes + (64 + rows.length * 4) :=
    Layout.bytes_add l 2 _
  simp only [ofRows]
  omega

theorem sum_length_rows_le (intervals : List (Nat × Nat)) :
    (intervals.flatMap ByteRange.rows).length ≤ 26 * intervals.length ∧
      ((intervals.flatMap ByteRange.rows).map List.length).sum ≤ 88 * intervals.length := by
  induction intervals with
  | nil => exact ⟨Nat.le_refl _, Nat.le_refl _⟩
  | cons i intervals ih =>
      have hi := ByteRange.length_rows_le i
      simp only [List.flatMap_cons, List.length_append, List.map_append, List.sum_append,
        List.length_cons]
      omega

theorem ofSet_addsAtMost (backward : Bool) (s : CodePointSet) :
    (ofSet backward s).AddsAtMost (1760 * s.boundaries.size + 5344) := by
  have hintervals := s.length_intervals_le
  obtain ⟨hlength, hsum⟩ := sum_length_rows_le s.intervals
  unfold ofSet
  simp only []
  split
  · refine (states_addsAtMost 2 _).mono ?_
    unfold Layout.transition
    omega
  · split
    · exact (ofRows_addsAtMost _).mono (by omega)
    · have htree := ByteTree.size_ofRows_le (s.intervals.flatMap ByteRange.rows)
      exact (ofTree_addsAtMost _).mono (by omega)

end LayoutStep

end ChatTriage
