import ChatTriage.Proofs.CatalogReading
import ChatTriage.Proofs.Excerpt
import ChatTriage.Proofs.SignatureScan

/-!
# The signatures of the catalog

Every signature that is written down in the catalog reads as a pattern, none of these patterns
asks for the edge of the text, and the sets compile.
-/

namespace ChatTriage

namespace Signature

def haveRoomWithoutTextEdges (ts : List PatternTree) : Bool :=
  PatternTree.haveRoom ts && ts.all (·.pattern.ignoresTextEdges)

set_option maxRecDepth 2000 in
theorem catalog_readsTo :
    ∀ s ∈ catalog, ReadsTo haveRoomWithoutTextEdges s.patterns := by
  unfold catalog javaScript typeScript python java cSharp php html css sql bash ruby go rust
    cpp swift kotlin
  repeat
    refine List.forall_mem_cons.2 ⟨?_, ?_⟩
    · repeat
        refine ReadsTo.ofList_cons ?_
      exact ReadsTo.nil (by decide +kernel)
  exact List.forall_mem_nil _

end Signature

namespace SignatureTable

theorem mem_builtin {s : Signatures} (h : s ∈ builtin.sets) :
    ∃ written ∈ Signature.catalog, s = written.read := by
  obtain ⟨written, hwritten, rfl⟩ := List.mem_map.1 h
  exact ⟨written, hwritten, rfl⟩

theorem builtin_languages_nodup : (builtin.sets.map (·.language)).Nodup := by
  have hlanguages : builtin.sets.map (·.language) = Signature.catalog.map (·.language) := by
    rw [builtin, List.map_map]
    rfl
  rw [hlanguages]
  decide

theorem builtin_ignoresTextEdges {s : Signatures} (hs : s ∈ builtin.sets) {p : Pattern}
    (hp : p ∈ s.patterns) : p.ignoresTextEdges = true := by
  obtain ⟨written, hwritten, rfl⟩ := mem_builtin hs
  obtain ⟨ts, hread, -, htest⟩ := (Signature.catalog_readsTo written hwritten).exists_trees
  rw [SignatureSet.read, hread] at hp
  obtain ⟨t, ht, rfl⟩ := List.mem_map.1 hp
  exact List.all_eq_true.1 (Bool.and_eq_true_iff.1 htest).2 t ht

theorem builtin_hasHit {written : SignatureSet} (hwritten : written ∈ Signature.catalog)
    {source : String} (hsource : source ∈ written.patterns) {text : List Char}
    (h : (Pattern.ofString? source).any (·.occursIn text.toArray) = true) :
    builtin.HasHit text := by
  obtain ⟨p, hread, hoccurs⟩ := (Option.any_eq_true _ _).1 h
  exact ⟨written.read, List.mem_map_of_mem hwritten, p,
    List.mem_filterMap.2 ⟨source, hsource, hread⟩, hoccurs⟩

/-- No signature of the catalog is lost on the way into the table. -/
theorem builtin_length_patterns :
    builtin.sets.map (·.patterns.length) = Signature.catalog.map (·.patterns.length) := by
  rw [builtin, List.map_map]
  apply List.map_congr_left
  intro written hwritten
  obtain ⟨ts, hread, hlength, -⟩ := (Signature.catalog_readsTo written hwritten).exists_trees
  change (Pattern.readList written.patterns).length = _
  rw [hread, List.length_map, hlength]

theorem ofSets_catalog : ofSets Signature.catalog = .ok builtin := by
  refine ofSets_eq_ok_iff.2 ⟨rfl, fun s hs => SignatureSet.compile_eq_ok_iff.2 ⟨rfl, ?_⟩⟩
  exact (Signature.catalog_readsTo s hs).compileList?_eq_some fun _ htest =>
    (Bool.and_eq_true_iff.1 htest).1

end SignatureTable

end ChatTriage
