import Reshape.Proofs.Disk.Walk

namespace Reshape.FileTree

variable {t : FileTree} {place q : List String} {p : DiskPath}

theorem node?_filter_of_pos (keep : List String → Bool) (h : keep q) (t : FileTree) :
    FileTree.node? (t.filter fun e ↦ keep e.1) q = t.node? q := by
  unfold node?
  split
  · rfl
  · exact Keyed.get?_filter_of_pos h t

theorem node?_filter_of_neg (keep : List String → Bool) (h : ¬ keep q) (hne : q ≠ [])
    (t : FileTree) : FileTree.node? (t.filter fun e ↦ keep e.1) q = none := by
  rw [node?, if_neg (by simpa using hne)]
  exact Keyed.get?_filter_of_neg h t

theorem node?_erase (hne : place ≠ []) (t : FileTree) (q : List String) :
    FileTree.node? (Keyed.erase place t) q = if q = place then none else t.node? q := by
  by_cases heq : q = place
  · rw [if_pos heq]
    exact node?_filter_of_neg (fun q ↦ q ≠ place) (by simpa using heq) (heq ▸ hne) t
  · rw [if_neg heq]
    exact node?_filter_of_pos (fun q ↦ q ≠ place) (by simpa using heq) t

theorem node?_emptied (t : FileTree) (place q : List String) :
    (t.emptied place).node? q = if Below q place then none else t.node? q := by
  by_cases hbelow : Below q place
  · have hne : q ≠ [] := by
      rintro rfl
      exact not_below_nil place hbelow
    rw [if_pos hbelow]
    exact node?_filter_of_neg (fun q ↦ !isBelow place q) (by simpa using isBelow_iff.2 hbelow) hne t
  · have hkeep : isBelow place q = false := by rwa [Bool.eq_false_iff, Ne, isBelow_iff]
    rw [if_neg hbelow]
    exact node?_filter_of_pos (fun q ↦ !isBelow place q) (by simp [hkeep]) t

def removed (t : FileTree) (place : List String) : FileTree :=
  Keyed.erase place (t.emptied place)

theorem node?_removed (hne : place ≠ []) (t : FileTree) (q : List String) :
    (t.removed place).node? q = if place <+: q then none else t.node? q := by
  rw [removed, node?_erase hne, node?_emptied]
  by_cases heq : q = place
  · rw [if_pos heq, if_pos (heq ▸ List.prefix_rfl)]
  · have hbelow : Below q place ↔ place <+: q := and_iff_left (Ne.symm heq)
    simp only [if_neg heq, hbelow]

theorem Rooted.removed (h : t.Rooted) (hne : place ≠ []) : (t.removed place).Rooted := by
  intro above name hsome
  rw [node?_removed hne] at hsome ⊢
  split at hsome
  · cases hsome
  · rename_i hpre
    rw [if_neg fun habove ↦ hpre (habove.trans (List.prefix_append above [name]))]
    exact h above name hsome

theorem walk_of_occupied (h : t.occupied p) :
    checked p = .ok p ∧ t.walk (start p) p.steps = .ok p.place ∧ (t.node? p.place).isSome := by
  unfold occupied at h
  split at h
  · rename_i place hlocate
    obtain rfl := locate_eq_ok hlocate
    unfold locate at hlocate
    split at hlocate
    · rename_i hchecked
      have hsame := checked_eq_ok hchecked
      rw [hsame] at hchecked hlocate
      rw [walk_append] at hlocate
      cases hwalk : t.walk (start p) p.steps with
      | error e =>
        rw [hwalk] at hlocate
        cases hlocate
      | ok place => exact ⟨hchecked, by rw [walk_eq_ok hwalk, DiskPath.place], h⟩
    · cases hlocate
  · cases h

/-- Where no step leads back, a folder is removed with all that is in it if the path ends in its
name, and is emptied otherwise. -/
theorem removeFolder_of_occupied (hback : ".." ∉ p.steps) (htaken : t.occupied p)
    (hfolder : t.node? p.place = some .folder) :
    t.removeFolder p = if endsInName p then (.ok (), t.removed p.place)
      else (.error .notRemovable, t.emptied p.place) := by
  obtain ⟨-, hwalk, -⟩ := walk_of_occupied htaken
  have hlocate : t.locate p = .ok p.place := by
    unfold occupied at htaken
    split at htaken
    · rename_i place hlocate
      rw [hlocate, locate_eq_ok hlocate]
    · cases htaken
  -- What is gone from the emptied folder is nothing that the path leads through.
  have hagain : (t.emptied p.place).walk (start p) p.steps = .ok p.place := by
    rw [← hwalk]
    refine walk_congr hback fun q hq ↦ ?_
    rw [node?_emptied, if_neg fun hbelow : Below q p.place ↦ hbelow.not_prefix hq]
  rw [removeFolder, hlocate]
  dsimp only
  rw [hfolder]
  dsimp only
  rw [hagain]
  rfl

/-- A folder that is removed is named, and goes with all that is in it. -/
theorem removeFolder_eq_ok (hback : ".." ∉ p.steps) (h : (t.removeFolder p).1 = .ok ()) :
    endsInName p ∧ (t.removeFolder p).2 = t.removed p.place := by
  have hfolder : t.occupied p ∧ t.node? p.place = some .folder := by
    unfold removeFolder at h
    split at h
    · cases h
    · rename_i hlocate
      obtain rfl := locate_eq_ok hlocate
      split at h
      · cases h
      · cases h
      · rename_i hnode
        exact ⟨by simp [occupied, hlocate, hnode], hnode⟩
  rw [removeFolder_of_occupied hback hfolder.1 hfolder.2] at h ⊢
  split at h
  · rename_i hnamed
    exact ⟨hnamed, by rw [if_pos hnamed]⟩
  · cases h

end Reshape.FileTree
