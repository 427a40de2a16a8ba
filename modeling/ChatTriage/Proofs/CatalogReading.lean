import ChatTriage.Proofs.ConflictTable
import ChatTriage.Proofs.ShapeSize

/-!
# Reading the catalogs

Whether a list of written patterns reads, and what its trees are like, is found by a single
computation that takes each pattern as the list of its characters. The markers of the
catalog compile, so the rules of the catalog build the table that holds them as read.
-/

namespace ChatTriage

/-- The bounds of the trees together keep within the limit of a list. -/
def PatternTree.haveRoom (ts : List PatternTree) : Bool :=
  roomOfAll ts + 96 * ts.length + 176 ≤ listLimit

/-- The sources read, and their trees pass a test together. -/
def ReadsTo (test : List PatternTree → Bool) (sources : List String) : Prop :=
  ∃ ts, sources.mapM PatternTree.ofString? = some ts ∧ test ts = true

namespace ReadsTo

variable {test : List PatternTree → Bool} {sources : List String}

theorem nil (h : test [] = true) : ReadsTo test [] :=
  ⟨[], rfl, h⟩

/-- The first pattern is read within the test of the others, so that at the end of the list a
single closed test is left. -/
theorem ofList_cons {cs : List Char}
    (h : ReadsTo (fun ts => (PatternTree.ofList? cs).any fun t => test (t :: ts)) sources) :
    ReadsTo test (String.ofList cs :: sources) := by
  obtain ⟨ts, hts, htest⟩ := h
  obtain ⟨t, ht, htest⟩ := (Option.any_eq_true _ _).1 htest
  refine ⟨t :: ts, ?_, htest⟩
  rw [List.mapM_cons, PatternTree.ofString?, String.toList_ofList, ht, hts]
  rfl

theorem exists_trees (h : ReadsTo test sources) :
    ∃ ts, Pattern.readList sources = ts.map (·.pattern) ∧ ts.length = sources.length ∧
      test ts = true := by
  obtain ⟨ts, hts, htest⟩ := h
  exact ⟨ts, PatternTree.readList_of_mapM hts, PatternTree.length_of_mapM hts, htest⟩

theorem compileList?_eq_some (h : ReadsTo test sources)
    (htest : ∀ ts, test ts = true → PatternTree.haveRoom ts = true) :
    Pattern.compileList? sources = some (Pattern.readList sources) := by
  obtain ⟨ts, hts, hroom⟩ := h
  rw [PatternTree.readList_of_mapM hts]
  exact Pattern.compileList?_eq_some_iff.2
    ⟨ts, hts, PatternTree.fitTogether_of_room (decide_eq_true_iff.1 (htest ts hroom)), rfl⟩

end ReadsTo

namespace Marker

def lists : List (List String) :=
  [cSharp, java, ruby, python, php, javaScript, javaScriptOnly, typeScript, bash, rust, cpp,
    swift, kotlin, sql]

theorem readsTo_haveRoom : ∀ sources ∈ lists, ReadsTo PatternTree.haveRoom sources := by
  unfold lists cSharp java ruby python php javaScript javaScriptOnly typeScript bash rust cpp
    swift kotlin sql
  repeat
    refine List.forall_mem_cons.2 ⟨?_, ?_⟩
    · -- A literal unifies with the list of its characters, which spares their decoding.
      repeat
        refine ReadsTo.ofList_cons ?_
      exact ReadsTo.nil (by decide +kernel)
  exact List.forall_mem_nil _

theorem mem_lists {r : ConflictRule} (h : r ∈ Conflict.catalog) :
    r.markersA ∈ lists ∧ r.markersB ∈ lists := by
  revert r
  simp [Conflict.catalog, lists]

end Marker

namespace ConflictTable

theorem ofRules_catalog : ofRules Conflict.catalog = .ok builtin := by
  have hmarkers : ∀ sources ∈ Marker.lists,
      Pattern.compileList? sources = some (Pattern.readList sources) := fun sources h =>
    (Marker.readsTo_haveRoom sources h).compileList?_eq_some fun _ => id
  have hread : ∀ r ∈ Conflict.catalog,
      r.compiled .standard = r.read ∧ r.compile .standard = .ok (r.compiled .standard) := by
    intro r hr
    obtain ⟨hA, hB⟩ := Marker.mem_lists hr
    have hA : PatternCompiler.standard.compileList? r.markersA = _ := hmarkers _ hA
    have hB : PatternCompiler.standard.compileList? r.markersB = _ := hmarkers _ hB
    rw [ConflictRule.compile_iff, ConflictRule.compiled, hA, hB]
    exact ⟨rfl, rfl, rfl⟩
  refine ofRulesWith_eq_ok_iff.2 ⟨?_, builtin_valid, fun r hr => (hread r hr).2⟩
  rw [List.map_congr_left fun r hr => (hread r hr).1]
  rfl

end ConflictTable

end ChatTriage
