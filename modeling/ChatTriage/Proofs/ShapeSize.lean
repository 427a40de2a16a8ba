import ChatTriage.Proofs.Compile
import ChatTriage.Proofs.LayoutSize

/-!
# The size of patterns

A bound for the automaton of a written pattern, found from its tree. To bring a pattern into
shape makes it no larger by this measure.
-/

namespace ChatTriage

open Unicode

theorem length_toList_loop (bytes : ByteArray) (i : Nat) (found : List UInt8) :
    (ByteArray.toList.loop bytes i found).length = bytes.size - i + found.length := by
  unfold ByteArray.toList.loop
  split
  · rw [length_toList_loop, List.length_cons]
    omega
  · rw [List.length_reverse]
    omega
termination_by bytes.size - i

theorem length_utf8Bytes_le (cs : List Char) : (utf8Bytes cs).length ≤ 4 * cs.length := by
  have hencoded : (cs.flatMap String.utf8EncodeChar).length ≤ 4 * cs.length := by
    induction cs with
    | nil => exact Nat.le_refl _
    | cons c cs ih =>
        have hc := c.utf8Size_le_four
        rw [List.flatMap_cons, List.length_append, String.length_utf8EncodeChar,
          List.length_cons]
        omega
  have hlength : (utf8Bytes cs).length = (cs.flatMap String.utf8EncodeChar).length := by
    rw [utf8Bytes, ByteArray.toList, length_toList_loop, String.toUTF8_eq_toByteArray,
      String.toByteArray_ofList, List.utf8Encode, List.size_toByteArray]
    rfl
  exact hlength ▸ hencoded

namespace PatternShape

theorem length_bytesOf_le (backward : Bool) (cs : List Char) :
    (bytesOf backward cs).length ≤ 4 * cs.length := by
  unfold bytesOf
  split
  · rw [List.length_reverse]
    exact length_utf8Bytes_le cs
  · exact length_utf8Bytes_le cs

mutual

/-- A bound for the bytes that the states of a shape take; 32 more are for what is empty. -/
def room : PatternShape → Nat
  | empty => 0
  -- More than its bytes need: a choice between characters becomes a set of them.
  | text cs => 3600 * cs.length
  | set s => 1760 * s.boundaries.size + 5312
  | assertion _ => 0
  | repetition p low high _ => max low (high.getD 1) * (p.room + 72) + 112
  | group p => p.room + 64
  | row ps => roomOfAll ps
  -- As a set it has two more boundaries for the surrogates, which are left out.
  | choice ps => roomOfAll ps + 8832

def roomOfAll : List PatternShape → Nat
  | [] => 0
  | p :: ps => p.room + 36 + roomOfAll ps

end

theorem roomOfAll_eq_sum (ps : List PatternShape) :
    roomOfAll ps = (ps.map fun p => p.room + 36).sum := by
  induction ps with
  | nil => rfl
  | cons p ps ih => rw [roomOfAll, ih, List.map_cons, List.sum_cons]

theorem roomOfAll_append (ps qs : List PatternShape) :
    roomOfAll (ps ++ qs) = roomOfAll ps + roomOfAll qs := by
  simp only [roomOfAll_eq_sum, List.map_append, List.sum_append]

theorem layoutSteps_eq_map (k : AutomatonKind) (ps : List PatternShape) :
    layoutSteps k ps = ps.map (layoutStep k) := by
  induction ps with
  | nil => rfl
  | cons p ps ih => rw [layoutSteps, ih, List.map_cons]

theorem sum_room_add (ps : List PatternShape) (n : Nat) :
    (ps.map fun p => p.room + n).sum + 36 * ps.length = roomOfAll ps + n * ps.length := by
  rw [roomOfAll_eq_sum]
  induction ps with
  | nil => rfl
  | cons p ps ih =>
      simp only [List.map_cons, List.sum_cons, List.length_cons, Nat.mul_add_one]
      omega

theorem words_room_le (backward : Bool) {ps : List PatternShape} {texts : List (List Char)}
    (h : ps.mapM text? = some texts) :
    Layout.roomOfWords (texts.map (bytesOf backward)) ≤ roomOfAll ps := by
  rw [mapM_eq_some_iff] at h
  induction h with
  | nil => exact Nat.le_refl _
  | @cons p cs ps texts hp _ ih =>
      cases p with
      | text ds =>
          obtain rfl : ds = cs := Option.some.inj hp
          have hbytes := length_bytesOf_le backward ds
          unfold Layout.roomOfWords at ih ⊢
          simp only [List.map_cons, List.sum_cons, roomOfAll, room]
          omega
      | _ => cases hp

mutual

theorem layoutStep_addsAtMost (k : AutomatonKind) :
    (p : PatternShape) → (p.layoutStep k).AddsAtMost (p.room + 32)
  | empty => LayoutStep.states_addsAtMost 1 0
  | text cs => by
      have hbytes := length_bytesOf_le k.backward cs
      exact (LayoutStep.states_addsAtMost _ 0).mono (by rw [room]; omega)
  | set s => (LayoutStep.ofSet_addsAtMost k.backward s).mono (Nat.le_refl _)
  | assertion _ => LayoutStep.states_addsAtMost 1 0
  | repetition p low high _ =>
      (LayoutStep.repeated_addsAtMost (layoutStep_addsAtMost k p) _ low high).mono
        (by simp only [room, Nat.add_assoc, Nat.reduceAdd]; omega)
  | group p => by
      have hp := layoutStep_addsAtMost k p
      have hgroup := LayoutStep.states_addsAtMost 1 0
      rw [layoutStep]
      split
      · exact (LayoutStep.row_cons_addsAtMost hgroup
          (LayoutStep.row_pair_addsAtMost hp hgroup)).mono (by rw [room]; omega)
      · exact hp.mono (by rw [room]; omega)
  | row ps => by
      have hps := layoutSteps_addsAtMost k ps
      have hsum := sum_room_add ps 32
      rw [layoutStep, layoutSteps_eq_map]
      split
      · rw [← List.map_reverse]
        refine (LayoutStep.row_addsAtMost fun p hp => hps p (List.mem_reverse.1 hp)).mono ?_
        rw [List.map_reverse, List.sum_reverse, room]
        omega
      · exact (LayoutStep.row_addsAtMost hps).mono (by rw [room]; omega)
  | choice ps => by
      have hps := layoutSteps_addsAtMost k ps
      have hsum := sum_room_add ps 32
      rw [layoutStep, layoutSteps_eq_map]
      split
      next texts htexts =>
        have hwords := words_room_le k.backward htexts
        exact (LayoutStep.words_addsAtMost _).mono (by rw [room]; omega)
      next => exact (LayoutStep.choice_addsAtMost hps).mono (by rw [room]; omega)

theorem layoutSteps_addsAtMost (k : AutomatonKind) :
    (ps : List PatternShape) → ∀ p ∈ ps, (p.layoutStep k).AddsAtMost (p.room + 32)
  | [] => fun _ hp => absurd hp List.not_mem_nil
  | p :: ps => List.forall_mem_cons.2
      ⟨layoutStep_addsAtMost k p, layoutSteps_addsAtMost k ps⟩

end

/-- Beside its patterns an automaton has the loop in front, and for each pattern a group, a state
at its end and a branch. -/
theorem automatonFits_of_room {k : AutomatonKind} {ps : List PatternShape}
    (h : roomOfAll ps + 96 * ps.length + 176 ≤ k.limit) : automatonFits k ps = true := by
  have hskip : (if ps.all (isAnchored k) then LayoutStep.states 1 0
      else .states 3 (2 * Layout.branch + Layout.transition)).AddsAtMost 112 := by
    split
    · exact (LayoutStep.states_addsAtMost 1 0).mono (by decide)
    · exact LayoutStep.states_addsAtMost 3 _
  have hwhole : ∀ p ∈ ps, (LayoutStep.row k.limit [(group p).layoutStep k,
      .states 1 0]).AddsAtMost (p.room + 128) := fun p _ =>
    (LayoutStep.row_pair_addsAtMost (layoutStep_addsAtMost k (group p))
      (LayoutStep.states_addsAtMost 1 0)).mono (Nat.le_refl _)
  have hpatterns : (LayoutStep.choice k.limit (ps.map fun p => LayoutStep.row k.limit
      [(group p).layoutStep k, .states 1 0])).AddsAtMost (roomOfAll ps + 96 * ps.length + 64) := by
    refine (LayoutStep.choice_addsAtMost hwhole).mono ?_
    have hsum := sum_room_add ps 128
    omega
  have hall : (automaton k ps).bytes ≤ _ :=
    LayoutStep.row_pair_addsAtMost hskip hpatterns .empty
  have hempty : Layout.empty.bytes = 0 := rfl
  rw [automatonFits, decide_eq_true_iff]
  exact Nat.le_trans hall (by omega)

/-! ## Building shapes -/

theorem room_ofSet_le (s : CodePointSet) :
    (ofSet s).room ≤ 1760 * s.boundaries.size + 8832 := by
  have hsize := s.size_diff_surrogates_le
  unfold ofSet
  simp only []
  split
  · split
    · rw [room, List.length_singleton]
      omega
    · rw [room]
      omega
  · rw [room]
    omega

theorem room_repeated_le (p : PatternShape) (low : Nat) (high : Option Nat) (isLazy : Bool) :
    (p.repeated low high isLazy).room ≤ max low (high.getD 1) * (p.room + 72) + 112 := by
  unfold repeated
  split
  next low' high' hcount =>
    have hle : max low' (high'.getD 1) ≤ max low (high.getD 1) := by
      split at hcount
      · obtain ⟨rfl, rfl⟩ := Prod.mk.inj hcount
        rw [Option.getD_some]
        omega
      · obtain ⟨rfl, rfl⟩ := Prod.mk.inj hcount
        exact Nat.le_refl _
    have hmul := Nat.mul_le_mul_right (p.room + 72) hle
    split
    · exact Nat.zero_le _
    · rw [Option.getD_some, Nat.max_self, Nat.one_mul] at hmul
      omega
    · rw [room]
      omega

theorem roomOfAll_parts_le (p : PatternShape) : roomOfAll p.parts ≤ p.room + 36 := by
  cases p with
  | empty => exact Nat.zero_le _
  | row ps => exact Nat.le_add_right _ _
  | _ => exact Nat.le_refl _

theorem roomOfAll_putFirst_le (p : PatternShape) (ps : List PatternShape) :
    roomOfAll (putFirst p ps) ≤ p.room + 36 + roomOfAll ps := by
  unfold putFirst
  split
  · simp only [roomOfAll, room, List.length_append]
    omega
  · exact Nat.le_refl _

theorem roomOfAll_flatMap_le {f : PatternShape → List PatternShape}
    (h : ∀ p, roomOfAll (f p) ≤ p.room + 36) (ps : List PatternShape) :
    roomOfAll (ps.flatMap f) ≤ roomOfAll ps := by
  induction ps with
  | nil => exact Nat.le_refl _
  | cons p ps ih =>
      rw [List.flatMap_cons, roomOfAll_append, roomOfAll]
      exact Nat.add_le_add (h p) ih

theorem room_ofRow_le (ps : List PatternShape) : (ofRow ps).room ≤ roomOfAll ps := by
  have hjoined : ∀ qs, roomOfAll (qs.foldr putFirst []) ≤ roomOfAll qs := by
    intro qs
    induction qs with
    | nil => exact Nat.le_refl _
    | cons q qs ih =>
        exact Nat.le_trans (roomOfAll_putFirst_le q _) (Nat.add_le_add_left ih _)
  refine Nat.le_trans ?_ (Nat.le_trans (hjoined _) (roomOfAll_flatMap_le roomOfAll_parts_le ps))
  unfold ofRow
  split
  next => exact Nat.zero_le _
  next p hp =>
    rw [hp, roomOfAll, roomOfAll]
    omega
  next => exact Nat.le_refl _

theorem roomOfAll_alternatives_le (p : PatternShape) :
    roomOfAll p.alternatives ≤ p.room + 36 := by
  cases p with
  | choice ps =>
      rw [alternatives, room]
      omega
  | _ => exact Nat.le_refl _

/-! ## Choices -/

/-- A character leaves room for the boundaries of its set, and so does a set. -/
theorem sum_size_le {f : PatternShape → Option CodePointSet} {ps : List PatternShape}
    {sets : List CodePointSet}
    (hf : ∀ p s, f p = some s → 1760 * s.boundaries.size ≤ p.room)
    (h : ps.mapM f = some sets) :
    1760 * (sets.map (·.boundaries.size)).sum ≤ roomOfAll ps := by
  rw [mapM_eq_some_iff] at h
  induction h with
  | nil => exact Nat.le_refl _
  | @cons p s ps sets hp _ ih =>
      have hs := hf p s hp
      simp only [List.map_cons, List.sum_cons, roomOfAll]
      omega

theorem size_of_character? (p : PatternShape) (s : CodePointSet) (h : p.character? = some s) :
    1760 * s.boundaries.size ≤ p.room := by
  unfold character? at h
  split at h
  next c =>
    obtain rfl := Option.some.inj h
    have hsize := CodePointSet.size_interval_le c.toNat c.toNat
    rw [room, List.length_singleton]
    omega
  next => cases h

theorem size_of_set? (p : PatternShape) (s : CodePointSet) (h : p.set? = some s) :
    1760 * s.boundaries.size ≤ p.room := by
  cases p with
  | set t =>
      obtain rfl := Option.some.inj h
      exact Nat.le_add_right _ _
  | _ => cases h

theorem sharedStart_isPrefix (ps qs : List PatternShape) : sharedStart ps qs <+: ps := by
  induction ps generalizing qs with
  | nil => exact List.prefix_refl _
  | cons p ps ih =>
      cases qs with
      | nil => exact List.nil_prefix
      | cons q qs =>
          unfold sharedStart
          split
          · exact List.cons_prefix_cons.2 ⟨rfl, ih qs⟩
          · exact List.nil_prefix

theorem foldl_sharedStart_isPrefix (others : List (List PatternShape))
    (first : List PatternShape) : others.foldl sharedStart first <+: first := by
  induction others generalizing first with
  | nil => exact List.prefix_refl _
  | cons row others ih => exact (ih _).trans (sharedStart_isPrefix first row)

theorem roomOfAll_drop_le (n : Nat) (ps : List PatternShape) :
    roomOfAll (ps.drop n) ≤ roomOfAll ps := by
  have hsplit := roomOfAll_append (ps.take n) (ps.drop n)
  rw [List.take_append_drop] at hsplit
  omega

theorem roomOfAll_map_drop_le (n : Nat) (rows : List (List PatternShape)) :
    roomOfAll (rows.map fun row => ofRow (row.drop n)) ≤ roomOfAll (rows.map row) := by
  induction rows with
  | nil => exact Nat.le_refl _
  | cons ps rows ih =>
      have hrow := Nat.le_trans (room_ofRow_le (ps.drop n)) (roomOfAll_drop_le n ps)
      simp only [List.map_cons, roomOfAll, room]
      omega

/-- The first row pays for what all rows start with, and the second row, which starts with it as
well, for the part that holds the rests. -/
theorem roomOfAll_rests_le {start first second : List PatternShape}
    (others : List (List PatternShape)) (hstart : start ≠ []) (hfirst : start <+: first)
    (hsecond : second ≠ []) :
    roomOfAll start + 36 +
        roomOfAll ((first :: second :: others).map fun row => ofRow (row.drop start.length)) ≤
      roomOfAll ((first :: second :: others).map row) := by
  obtain ⟨rest, rfl⟩ := hfirst
  obtain ⟨q, qs, rfl⟩ := List.exists_cons_of_ne_nil hsecond
  obtain ⟨n, hn⟩ : ∃ n, start.length = n + 1 :=
    Nat.exists_eq_add_one.2 (List.length_pos_iff.2 hstart)
  have hothers := roomOfAll_map_drop_le start.length others
  have hrest := room_ofRow_le rest
  have hqs := Nat.le_trans (room_ofRow_le (qs.drop n)) (roomOfAll_drop_le n qs)
  simp only [List.map_cons, roomOfAll, room, roomOfAll_append, List.drop_left] at hothers ⊢
  rw [hn] at hothers ⊢
  rw [List.drop_succ_cons]
  omega

theorem ne_nil_of_foldl_sharedStart {first second : List PatternShape}
    {others : List (List PatternShape)}
    (h : (second :: others).foldl sharedStart first ≠ []) : second ≠ [] := by
  rintro rfl
  have hnil : sharedStart first [] = [] := by
    cases first <;> rfl
  rw [List.foldl_cons, hnil] at h
  exact h (List.prefix_nil.1 (foldl_sharedStart_isPrefix others []))

theorem eq_map_row {ps : List PatternShape} {rows : List (List PatternShape)}
    (h : ps.mapM row? = some rows) : ps = rows.map row := by
  rw [mapM_eq_some_iff] at h
  induction h with
  | nil => rfl
  | @cons p qs ps rows hp _ ih =>
      cases p with
      | row rs =>
          obtain rfl := Option.some.inj hp
          rw [ih, List.map_cons]
      | _ => cases hp

theorem room_ofChoiceWithin_le (fuel : Nat) (ps : List PatternShape) :
    (ofChoiceWithin fuel ps).room ≤ roomOfAll ps + 8832 := by
  induction fuel generalizing ps with
  | zero => exact Nat.le_refl _
  | succ fuel ih =>
      have hflat := roomOfAll_flatMap_le roomOfAll_alternatives_le ps
      refine Nat.le_trans ?_ (Nat.add_le_add_right hflat 8832)
      unfold ofChoiceWithin
      split
      next => exact Nat.zero_le _
      next p hp =>
        rw [hp, roomOfAll, roomOfAll]
        omega
      next hne hsingle =>
        split
        next sets hsets =>
          have hunion := CodePointSet.size_unionAll_le sets.length sets
          have hset := room_ofSet_le (.unionAll sets.length sets)
          have hsum : 1760 * (sets.map (·.boundaries.size)).sum ≤
              roomOfAll (ps.flatMap alternatives) := by
            rcases Option.or_eq_some_iff.1 hsets with hsets | ⟨-, hsets⟩
            · exact sum_size_le size_of_character? hsets
            · exact sum_size_le size_of_set? hsets
          omega
        next =>
          split
          next first others hrows =>
            rw [eq_map_row hrows] at hsingle ⊢
            split
            next => exact Nat.le_refl _
            next start hstart =>
              cases others with
              | nil => exact absurd rfl (hsingle _)
              | cons second others =>
                  have hrests := roomOfAll_rests_le others hstart
                    (foldl_sharedStart_isPrefix (second :: others) first)
                    (ne_nil_of_foldl_sharedStart hstart)
                  have hchoice := ih ((first :: second :: others).map fun row =>
                    ofRow (row.drop ((second :: others).foldl sharedStart first).length))
                  refine Nat.le_trans (room_ofRow_le _) ?_
                  rw [roomOfAll_append, roomOfAll, roomOfAll]
                  omega
          next => exact Nat.le_refl _

theorem room_ofChoice_le (ps : List PatternShape) :
    (ofChoice ps).room ≤ roomOfAll ps + 8832 :=
  room_ofChoiceWithin_le _ ps

end PatternShape

/-! ## Trees -/

namespace PatternTree

mutual

/-- A bound for the room of the shape that is found without building it. -/
def room : PatternTree → Nat
  | blank => 0
  | set s _ => 1760 * s.boundaryBound + 8832
  | assertion _ => 0
  | group _ t => t.room + 64
  | repetition t low high _ => max low (high.getD 1) * (t.room + 72) + 112
  | row ts => roomOfAll ts
  | choice ts => roomOfAll ts + 8832

def roomOfAll : List PatternTree → Nat
  | [] => 0
  | t :: ts => t.room + 36 + roomOfAll ts

end

mutual

theorem room_shape_le : (t : PatternTree) → t.shape.room ≤ t.room
  | blank => Nat.le_refl _
  | set s _ => by
      have hsize := s.size_codePoints_le
      have hset := PatternShape.room_ofSet_le s.codePoints
      rw [shape, room]
      omega
  | assertion _ => Nat.le_refl _
  | group captures t => by
      have ht := room_shape_le t
      rw [shape, room]
      split
      · exact Nat.add_le_add_right ht 64
      · omega
  | repetition t low high isLazy => by
      have ht := room_shape_le t
      rw [shape, room]
      refine Nat.le_trans (PatternShape.room_repeated_le _ low high isLazy) ?_
      exact Nat.add_le_add_right (Nat.mul_le_mul_left _ (Nat.add_le_add_right ht 72)) 112
  | row ts => Nat.le_trans (PatternShape.room_ofRow_le _) (roomOfAll_shapes_le ts)
  | choice ts => Nat.le_trans (PatternShape.room_ofChoice_le _)
      (Nat.add_le_add_right (roomOfAll_shapes_le ts) 8832)

theorem roomOfAll_shapes_le : (ts : List PatternTree) →
    PatternShape.roomOfAll (shapes ts) ≤ roomOfAll ts
  | [] => Nat.le_refl _
  | t :: ts => by
      have ht := room_shape_le t
      have hts := roomOfAll_shapes_le ts
      rw [shapes, roomOfAll, PatternShape.roomOfAll]
      omega

end

theorem length_shapes (ts : List PatternTree) : (shapes ts).length = ts.length := by
  induction ts with
  | nil => rfl
  | cons t ts ih => rw [shapes, List.length_cons, List.length_cons, ih]

theorem fitTogether_of_room {ts : List PatternTree}
    (h : roomOfAll ts + 96 * ts.length + 176 ≤ listLimit) : fitTogether ts = true := by
  have hshapes := roomOfAll_shapes_le ts
  rw [← length_shapes] at h
  rw [fitTogether, Bool.and_eq_true]
  constructor
  · exact PatternShape.automatonFits_of_room (Nat.le_trans (by omega) h)
  · exact PatternShape.automatonFits_of_room (Nat.le_trans (by omega) h)

end PatternTree

end ChatTriage
