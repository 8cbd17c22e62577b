import Scaffold.Proofs.JavaScript.BlockEnd
import Scaffold.Proofs.JavaScript.Sites

namespace Scaffold.JavaScript

variable {text : List Char} {i j : Nat} {p : Pattern}

theorem byteAt_mono (h : i ≤ j) : byteAt text i ≤ byteAt text j := by
  obtain ⟨n, rfl⟩ := Nat.exists_eq_add_of_le h
  rw [byteAt_add]
  exact Nat.le_add_right _ _

theorem byteAt_lt (h : i < j) (hi : i < text.length) : byteAt text i < byteAt text j := by
  obtain ⟨n, rfl⟩ := Nat.exists_eq_add_of_lt h
  have hsize := (text[i]).utf8Size_pos
  rw [Nat.add_assoc, byteAt_add, List.drop_eq_getElem_cons hi, List.take_succ_cons, String.utf8Len_cons]
  omega

theorem byteAt_inj (hi : i < text.length) (hj : j < text.length) (h : byteAt text i = byteAt text j) : i = j := by
  rcases Nat.lt_trichotomy i j with hlt | heq | hlt
  · exact absurd h (byteAt_lt hlt hi).ne
  · exact heq
  · exact absurd h (byteAt_lt hlt hj).ne'

/-- All that the patterns of functions find in a text, pattern by pattern. -/
def found (text : List Char) : List Match := functionPatterns.flatMap (·.matches text)

theorem functions_eq_found (text : List Char) :
    functions text = ((found text).filter fun m => !builtins.contains m.name).map signatureOf := by
  rw [functions, found, List.filter_flatMap, List.map_flatMap]

/-- What a pattern finds and the sites of it come from one scan. -/
theorem exists_scan_matches (hp : p ∈ functionPatterns) (text : List Char) :
    ∃ os, Scan p text 0 os ∧ p.matches text = os.map (p.matchOf 1 text) ∧
      p.sites text = os.map fun o => (o.start, p.nameIn o.parts) := by
  obtain ⟨os, hscan, hmatches⟩ :=
    p.matches_eq (count_name_of_mem_functionPatterns p hp) (apart_of_mem_functionPatterns hp) text
  obtain ⟨os', hscan', hsites⟩ := exists_scan hp text
  obtain rfl := hscan.unique hscan'
  exact ⟨_, hscan, hmatches, hsites⟩

theorem map_offset_matches (hp : p ∈ functionPatterns) :
    (p.matches text).map (·.start.offset) = (p.sites text).map fun s => byteAt text s.1 := by
  obtain ⟨os, -, hmatches, hsites⟩ := exists_scan_matches hp text
  rw [hmatches, hsites, List.map_map, List.map_map]
  rfl

theorem lt_length_of_mem_sites {s : Nat × String} (hs : s ∈ sites text) : s.1 < text.length := by
  obtain ⟨p, hp, os, hscan, o, ho, hstart, -⟩ := mem_sites_iff.mp hs
  rw [← hstart]
  exact hscan.start_lt_length (name_mem_of_mem_functionPatterns hp) o ho

theorem nodup_map_offset_found : ((found text).map (·.start.offset)).Nodup := by
  have hsites : (found text).map (·.start.offset) = (sites text).map fun s => byteAt text s.1 := by
    rw [found, sites, List.map_flatMap, List.map_flatMap]
    exact List.flatMap_congr fun p hp => map_offset_matches hp
  have hplaces : ((sites text).map Prod.fst).Nodup := nodup_map_fst_sites
  rw [List.Nodup, List.pairwise_map] at hplaces
  rw [hsites, List.Nodup, List.pairwise_map]
  refine hplaces.imp_of_mem ?_
  intro s t hs ht hne heq
  exact hne (byteAt_inj (lt_length_of_mem_sites hs) (lt_length_of_mem_sites ht) heq)

theorem offset_lt_of_mem_matches (hp : p ∈ functionPatterns) :
    ∀ m ∈ p.matches text, m.start.offset < m.stop.offset := by
  obtain ⟨os, hscan, hmatches, -⟩ := exists_scan_matches hp text
  have hname := name_mem_of_mem_functionPatterns hp
  rw [hmatches]
  intro m hm
  obtain ⟨o, ho, rfl⟩ := List.mem_map.mp hm
  have hpos := List.length_pos_iff.mpr ((hscan.of_mem o ho).2.1.flatten_ne_nil hname)
  apply byteAt_lt _ (hscan.start_lt_length hname o ho)
  rw [Occurrence.stop]
  omega

theorem pairwise_matches (hp : p ∈ functionPatterns) :
    (p.matches text).Pairwise fun m m' => m.stop.offset ≤ m'.start.offset := by
  obtain ⟨os, hscan, hmatches, -⟩ := exists_scan_matches hp text
  rw [hmatches, List.pairwise_map]
  exact hscan.pairwise.imp byteAt_mono

/-- The functions that are listed are found at offsets that all differ. No two patterns of functions can be read
at one place of a text, and what one of them finds moves on: each match is longer than nothing, and the next
one begins where it ends or later. -/
theorem found_at_different_offsets (text : List Char) :
    (functions text = ((found text).filter fun m => m.name ∉ builtins).map signatureOf ∧
      ((found text).map (·.start.offset)).Nodup) ∧
    (∀ p ∈ functionPatterns, ∀ q ∈ functionPatterns, p ≠ q → ∀ i, p.Occurs text i → ¬ q.Occurs text i) ∧
    ∀ p ∈ functionPatterns, (∀ m ∈ p.matches text, m.start.offset < m.stop.offset) ∧
      (p.matches text).Pairwise fun m m' => m.stop.offset ≤ m'.start.offset := by
  refine ⟨⟨?_, nodup_map_offset_found⟩, ?_, ?_⟩
  · simp [functions_eq_found]
  · intro p hp q hq hne
    exact excludes_of_mem_functionPatterns hp hq hne text
  · intro p hp
    exact ⟨offset_lt_of_mem_matches hp, pairwise_matches hp⟩

end Scaffold.JavaScript
