import ChatTriage.Conflict.Table
import ChatTriage.Signature.Table
import Mathlib.Data.List.Forall2

/-!
# What compiles

A set of signatures or a rule compiles exactly when the compiler takes its lists of patterns.
For the standard compiler that is to read them and to refuse what is malformed or too large.
So a table that was built by it without an error holds the patterns as they are read, and
there is only one table that can come from a list of sets or of rules.
-/

namespace ChatTriage

section

variable {α β ε : Type} {xs : List α} {ys : List β}

theorem mapM_eq_some_iff {f : α → Option β} :
    xs.mapM f = some ys ↔ List.Forall₂ (fun x y => f x = some y) xs ys := by
  induction xs generalizing ys with
  | nil => simp [eq_comm]
  | cons x xs ih =>
      rw [List.mapM_cons, List.forall₂_cons_left_iff]
      simp only [← ih]
      cases f x <;> cases xs.mapM f <;> simp [eq_comm]

theorem mapM_eq_ok_iff {f : α → Except ε β} :
    xs.mapM f = .ok ys ↔ List.Forall₂ (fun x y => f x = .ok y) xs ys := by
  induction xs generalizing ys with
  | nil => simp [pure, Except.pure, eq_comm]
  | cons x xs ih =>
      rw [List.mapM_cons, List.forall₂_cons_left_iff]
      simp only [← ih]
      cases f x <;> cases xs.mapM f <;> simp [bind, Except.bind, pure, Except.pure, eq_comm]

end

namespace PatternTree

variable {sources : List String} {ts : List PatternTree}

theorem readList_of_mapM (h : sources.mapM ofString? = some ts) :
    Pattern.readList sources = ts.map (·.pattern) := by
  rw [mapM_eq_some_iff] at h
  induction h with
  | nil => rfl
  | @cons s t sources ts hs _ ih =>
      have hread : Pattern.ofString? s = some t.pattern := by
        rw [Pattern.ofString?, hs]
        rfl
      unfold Pattern.readList at ih ⊢
      rw [List.filterMap_cons_some hread, ih, List.map_cons]

theorem length_of_mapM (h : sources.mapM ofString? = some ts) :
    ts.length = sources.length :=
  (mapM_eq_some_iff.1 h).length_eq.symm

end PatternTree

namespace Pattern

variable {sources : List String} {ps : List Pattern}

theorem compileList?_eq_some_iff :
    compileList? sources = some ps ↔ ∃ ts, sources.mapM PatternTree.ofString? = some ts ∧
      PatternTree.fitTogether ts = true ∧ ts.map (·.pattern) = ps := by
  rw [compileList?, Option.bind_eq_bind, Option.bind_eq_some_iff]
  simp

theorem compileList?_eq_some (h : compileList? sources = some ps) : ps = readList sources := by
  obtain ⟨ts, hts, -, rfl⟩ := compileList?_eq_some_iff.1 h
  exact (PatternTree.readList_of_mapM hts).symm

theorem length_of_compileList? (h : compileList? sources = some ps) :
    ps.length = sources.length := by
  obtain ⟨ts, hts, -, rfl⟩ := compileList?_eq_some_iff.1 h
  rw [List.length_map, PatternTree.length_of_mapM hts]

end Pattern

namespace ConflictRule

variable {k : PatternCompiler} {r : ConflictRule} {c : CompiledRule}

/-- The rule with its markers, as far as the compiler takes them. -/
def compiled (k : PatternCompiler) (r : ConflictRule) : CompiledRule :=
  ⟨r, (k.compileList? r.markersA).getD [], (k.compileList? r.markersB).getD []⟩

theorem compile_eq_ok_iff :
    r.compile k = .ok c ↔ c = r.compiled k ∧
      (k.compileList? r.markersA).isSome = true ∧
      (k.compileList? r.markersB).isSome = true := by
  unfold compile compiled PatternCompiler.compileAll
  cases k.compileList? r.markersA with
  | none => simp [bind, Except.bind]
  | some markersA =>
      cases k.compileList? r.markersB with
      | none => simp [bind, Except.bind]
      | some markersB => simp [bind, Except.bind, pure, Except.pure, eq_comm]

theorem compile_iff :
    r.compile k = .ok (r.compiled k) ↔
      (k.compileList? r.markersA).isSome = true ∧
      (k.compileList? r.markersB).isSome = true := by
  rw [compile_eq_ok_iff]
  exact and_iff_right rfl

theorem compile_eq_ok (h : r.compile k = .ok c) : c = r.compiled k :=
  (compile_eq_ok_iff.1 h).1

theorem compiled_eq_read (h : r.compile .standard = .ok c) : r.compiled .standard = r.read := by
  obtain ⟨-, hA, hB⟩ := compile_eq_ok_iff.1 h
  obtain ⟨markersA, hA⟩ := Option.isSome_iff_exists.1 hA
  obtain ⟨markersB, hB⟩ := Option.isSome_iff_exists.1 hB
  rw [compiled, read, hA, hB, Pattern.compileList?_eq_some hA, Pattern.compileList?_eq_some hB]
  rfl

end ConflictRule

namespace SignatureSet

variable {k : PatternCompiler} {s : SignatureSet} {c : Signatures}

theorem compile_eq_ok_iff :
    s.compile k = .ok c ↔
      c.language = s.language ∧ k.compileList? s.patterns = some c.patterns := by
  unfold compile PatternCompiler.compileAll
  cases k.compileList? s.patterns with
  | none => simp [Except.map]
  | some ps =>
      simp only [Except.map, Except.ok.injEq, Option.some.injEq]
      constructor
      · rintro rfl
        exact ⟨rfl, rfl⟩
      · rintro ⟨hlanguage, rfl⟩
        rw [← hlanguage]

theorem compile_eq_ok (h : s.compile .standard = .ok c) : c = s.read := by
  obtain ⟨hlanguage, hpatterns⟩ := compile_eq_ok_iff.1 h
  rw [read, ← hlanguage, ← Pattern.compileList?_eq_some hpatterns]

theorem length_read (h : s.compile .standard = .ok s.read) :
    s.read.patterns.length = s.patterns.length :=
  Pattern.length_of_compileList? (compile_eq_ok_iff.1 h).2

theorem compile_of_toBool (h : (s.compile .standard).toBool = true) :
    s.compile .standard = .ok s.read := by
  cases hs : s.compile .standard with
  | error e => simp [hs, Except.toBool] at h
  | ok c => rw [compile_eq_ok hs]

end SignatureSet

namespace SignatureTable

variable {k : PatternCompiler} {sets : List SignatureSet} {t : SignatureTable}

theorem ofSetsWith_eq_ok_iff :
    ofSetsWith k sets = .ok t ↔ List.Forall₂ (fun s c => s.compile k = .ok c) sets t.sets := by
  rw [← mapM_eq_ok_iff, ofSetsWith]
  cases sets.mapM (SignatureSet.compile k) with
  | error e => simp [Except.map]
  | ok cs =>
      obtain ⟨built⟩ := t
      simp [Except.map]

/-- A table is built exactly when each of its sets compiles. -/
theorem ofSets_eq_ok_iff :
    ofSets sets = .ok t ↔
      t = ⟨sets.map SignatureSet.read⟩ ∧ ∀ s ∈ sets, s.compile .standard = .ok s.read := by
  rw [ofSets, ofSetsWith_eq_ok_iff]
  constructor
  · intro h
    obtain ⟨built⟩ := t
    obtain rfl : sets.map SignatureSet.read = built := by
      rw [← List.forall₂_eq_eq_eq, List.forall₂_map_left_iff]
      exact h.imp fun _ _ hs => (SignatureSet.compile_eq_ok hs).symm
    rw [List.forall₂_map_right_iff, List.forall₂_same] at h
    exact ⟨rfl, h⟩
  · rintro ⟨rfl, hsets⟩
    rw [List.forall₂_map_right_iff, List.forall₂_same]
    exact hsets

theorem ofSets_eq_ok (h : ofSets sets = .ok t) : t = ⟨sets.map SignatureSet.read⟩ :=
  (ofSets_eq_ok_iff.1 h).1

end SignatureTable

end ChatTriage
