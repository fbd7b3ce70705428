import Reshape.Proofs.Disk.Tree

namespace Reshape

namespace DiskPath

variable {p : DiskPath}

theorem steps_ne_nil (hempty : p.text.toList ≠ []) (hslash : ¬ p.endsInSlash) : p.steps ≠ [] := by
  intro hnil
  obtain ⟨init, c, hsplit⟩ := (List.eq_nil_or_concat' p.text.toList).resolve_left hempty
  have hc : '/' ∉ [c] := by
    intro hmem
    apply hslash
    rw [endsInSlash, hsplit, ← List.mem_singleton.1 hmem]
    simp
  obtain ⟨before, last, hsteps⟩ := exists_stepsOf_append (List.cons_ne_nil c []) hc init
  rw [steps_eq, hsplit, hsteps] at hnil
  simp at hnil

end DiskPath

namespace FileTree

variable {t t' : FileTree} {place place' above q : List String} {step : String}
  {steps : List String} {n : Node} {p : DiskPath}

def Rooted (t : FileTree) : Prop :=
  ∀ above name, (t.node? (above ++ [name])).isSome → t.node? above = some .folder

theorem rooted_of_mem (h : ∀ e ∈ t, t.node? e.1.dropLast = some .folder) : Rooted t := by
  intro above name hsome
  obtain ⟨n, hn⟩ := Option.isSome_iff_exists.1 hsome
  have hget : t.get? (above ++ [name]) = some n := by simpa [node?] using hn
  simpa using h _ (Keyed.mem_of_get? hget)

namespace Rooted

theorem of_below (h : t.Rooted) (hq : (t.node? q).isSome) (hbelow : Below q above) :
    t.node? above = some .folder := by
  induction q using List.reverseRecOn with
  | nil => exact absurd hbelow (not_below_nil above)
  | append_singleton q name ih =>
    have hfolder : t.node? q = some .folder := h q name hq
    by_cases heq : above = q
    · rw [heq, hfolder]
    · exact ih (by simp [hfolder]) ⟨below_concat_iff.1 hbelow, heq⟩

theorem dropLast (h : t.Rooted) (hq : t.node? q = some .folder) :
    t.node? q.dropLast = some .folder := by
  induction q using List.reverseRecOn with
  | nil => rfl
  | append_singleton q name =>
    rw [List.dropLast_concat]
    exact h q name (by simp [hq])

theorem insert (h : t.Rooted) (habove : t.node? above = some .folder) {name : String}
    (hfree : t.node? (above ++ [name]) ≠ some .folder) (n : Node) :
    Rooted (Keyed.insert (above ++ [name]) n t) := by
  have hother : ∀ q, t.node? q = some .folder →
      FileTree.node? (Keyed.insert (above ++ [name]) n t) q = some .folder := by
    intro q hq
    have hne : q ≠ above ++ [name] := by
      rintro rfl
      exact hfree hq
    rw [node?_insert_of_ne t hne, hq]
  intro q name' hsome
  by_cases heq : q ++ [name'] = above ++ [name]
  · obtain rfl := (List.append_inj' heq rfl).1
    exact hother q habove
  · rw [node?_insert_of_ne t heq] at hsome
    exact hother q (h q name' hsome)

/-- A step that leads to no folder is a name. -/
theorem lead_eq (h : t.Rooted) (hplace : t.node? place = some .folder)
    (hnext : t.node? (lead place step) ≠ some .folder) : lead place step = place ++ [step] := by
  by_cases hdot : step = "."
  · rw [lead, if_pos hdot] at hnext
    exact absurd hplace hnext
  · by_cases hdots : step = ".."
    · rw [lead, if_neg hdot, if_pos hdots] at hnext
      exact absurd (h.dropLast hplace) hnext
    · rw [lead, if_neg hdot, if_neg hdots]

end Rooted

theorem walk_singleton (h : t.walk place [step] = .ok place') :
    t.node? place = some .folder ∧ place' = lead place step := by
  have hlead := walk_eq_ok h
  rw [walk] at h
  split at h
  · cases h
  · cases h
  · rename_i hfolder
    exact ⟨hfolder, hlead⟩

theorem walk_append (t : FileTree) (place steps more : List String) :
    t.walk place (steps ++ more) = (t.walk place steps).bind (t.walk · more) := by
  induction steps generalizing place with
  | nil => rfl
  | cons step rest ih =>
    rw [List.cons_append, walk, walk]
    split
    · rfl
    · rfl
    · split
      · exact ih _
      · rfl

theorem Rooted.makeAlong (h : t.Rooted) (place steps : List String) :
    (t.makeAlong place steps).2.Rooted := by
  induction steps generalizing t place with
  | nil => exact h
  | cons step rest ih =>
    rw [FileTree.makeAlong]
    split
    · exact h
    · rename_i next hwalk
      obtain ⟨hfolder, rfl⟩ := walk_singleton hwalk
      split
      · exact ih h _
      · exact h
      · rename_i hnone
        have hname : lead place step = place ++ [step] := h.lead_eq hfolder (by simp [hnone])
        rw [hname] at hnone ⊢
        exact ih (h.insert hfolder (by simp [hnone]) _) _

theorem Rooted.makeFolders (h : t.Rooted) (p : DiskPath) : (t.makeFolders p).2.Rooted := by
  unfold FileTree.makeFolders
  split
  · exact h
  · split
    · exact h
    · dsimp only
      split
      · split <;> exact h.makeAlong _ _
      · exact h.makeAlong _ _

theorem text_ne_nil_of_checked (h : checked p = .ok p) : p.text.toList ≠ [] := by
  intro hnil
  have hempty : p.text.isEmpty := by simpa using hnil
  simp [checked, hempty] at h

/-- A file is written where all steps of its path lead on from folders, and where there is no
folder; otherwise nothing happens. -/
theorem write_cases (t : FileTree) (p : DiskPath) (bytes : ByteArray) : (t.write p bytes).2 = t ∨
    checked p = .ok p ∧ ¬ p.endsInSlash ∧ t.walk (start p) p.steps = .ok p.place ∧
      t.node? p.place ≠ some .folder ∧ (t.write p bytes).2 = t.insert p.place (.file bytes) := by
  unfold write
  split
  · exact .inl rfl
  · rename_i hchecked
    obtain rfl := checked_eq_ok hchecked
    split
    · exact .inl rfl
    · rename_i p hslash
      split
      · exact .inl rfl
      · rename_i hwalk
        obtain rfl : _ = p.place := walk_eq_ok hwalk
        split
        · exact .inl rfl
        · rename_i hfree
          exact .inr ⟨hchecked, hslash, hwalk, hfree, rfl⟩

theorem Rooted.write (h : t.Rooted) (p : DiskPath) (bytes : ByteArray) :
    (t.write p bytes).2.Rooted := by
  rcases write_cases t p bytes with hsame | ⟨hchecked, hslash, hwalk, hfree, hwrite⟩
  · rwa [hsame]
  · -- The last step leads from a folder to a place of its own.
    have hsteps := DiskPath.steps_ne_nil (text_ne_nil_of_checked hchecked) hslash
    obtain ⟨init, last, hlast⟩ := (List.eq_nil_or_concat' _).resolve_left hsteps
    rw [hlast, walk_append] at hwalk
    cases hinit : t.walk (start p) init with
    | error e =>
      rw [hinit] at hwalk
      cases hwalk
    | ok above =>
      rw [hinit] at hwalk
      obtain ⟨hfolder, hplace⟩ := walk_singleton hwalk
      rw [hplace] at hfree hwrite
      have hname : lead above last = above ++ [last] := h.lead_eq hfolder hfree
      rw [hname] at hfree hwrite
      rw [hwrite]
      exact h.insert hfolder hfree _

end FileTree

end Reshape
