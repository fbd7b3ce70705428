import Mathlib.Data.List.DropRight
import Reshape.Proofs.Disk.Rooted

namespace Reshape.FileTree

variable {t t' : FileTree} {place q : List String} {step : String} {steps : List String}
  {p : DiskPath}

theorem prefix_foldl_lead (hback : ".." ∉ steps) (place : List String) :
    place <+: steps.foldl lead place := by
  rw [foldl_lead_of_not_mem hback]
  exact List.prefix_append _ _

def Short (steps : List String) : Prop := ∀ step ∈ steps, step.utf8ByteSize ≤ nameLimit

theorem advance_of_short (hback : step ≠ "..") (hshort : step.utf8ByteSize ≤ nameLimit)
    (place : List String) : advance place step = .ok (lead place step) := by
  rw [advance, lead, if_neg hback, if_neg hback, if_neg (Nat.not_lt.2 hshort)]
  split <;> rfl

theorem short_of_advance {place' : List String} (h : advance place step = .ok place') :
    step.utf8ByteSize ≤ nameLimit := by
  unfold advance at h
  split at h
  · rename_i hdot
    rw [hdot]
    decide
  · split at h
    · rename_i hdots
      rw [hdots]
      decide
    · split at h
      · cases h
      · exact Nat.not_lt.1 ‹_›

theorem short_of_walk (h : t.walk place steps = .ok q) : Short steps := by
  induction steps generalizing place with
  | nil => exact fun _ hstep ↦ nomatch hstep
  | cons step rest ih =>
    rw [walk] at h
    split at h
    · cases h
    · cases h
    · split at h
      · rename_i hnext
        exact List.forall_mem_cons.2 ⟨short_of_advance hnext, ih h⟩
      · cases h

theorem below_foldl_lead (hback : ".." ∉ steps) (hlast : steps.getLast? ≠ some ".")
    (hne : steps ≠ []) : Below (steps.foldl lead place) place := by
  rw [foldl_lead_of_not_mem hback]
  refine ⟨List.prefix_append _ _, fun heq ↦ hlast ?_⟩
  have hnames : steps.filter (· ≠ ".") = [] := by simpa using heq
  have hdot := List.filter_eq_nil_iff.1 hnames (steps.getLast hne) (List.getLast_mem hne)
  rw [List.getLast?_eq_some_getLast hne]
  simpa using hdot

/-- A walk is not stopped where there are folders all along. -/
theorem walk_of_folders (hback : ".." ∉ steps) (hshort : Short steps)
    (hlast : steps.getLast? ≠ some ".")
    (hfolders : ∀ q, place <+: q → Below (steps.foldl lead place) q → t.node? q = some .folder) :
    t.walk place steps = .ok (steps.foldl lead place) := by
  induction steps generalizing place with
  | nil => rfl
  | cons step rest ih =>
    obtain ⟨hstep, hrest⟩ := not_or.1 (hback ∘ List.mem_cons.2)
    obtain ⟨hsize, hsizes⟩ := List.forall_mem_cons.1 hshort
    have hplace : t.node? place = some .folder :=
      hfolders place List.prefix_rfl (below_foldl_lead hback hlast (List.cons_ne_nil step rest))
    have hnext : place <+: lead place step := @prefix_foldl_lead [step] (by simpa using hstep) place
    have hlast' : rest.getLast? ≠ some "." := by
      cases rest with
      | nil => simp
      | cons => simpa using hlast
    rw [walk, hplace, advance_of_short (Ne.symm hstep) hsize]
    exact ih hrest hsizes hlast' fun q hq hbelow ↦ hfolders q (hnext.trans hq) hbelow

/-- Walks look at nothing but the places that they lead through. -/
theorem walk_congr (hback : ".." ∉ steps)
    (h : ∀ q, q <+: steps.foldl lead place → t'.node? q = t.node? q) :
    t'.walk place steps = t.walk place steps := by
  induction steps generalizing place with
  | nil => rfl
  | cons step rest ih =>
    obtain ⟨-, hrest⟩ := not_or.1 (hback ∘ List.mem_cons.2)
    rw [walk, walk, h place (prefix_foldl_lead hback place)]
    split
    · rfl
    · rfl
    · split
      · rename_i hnext
        rw [advance_eq_ok hnext]
        exact ih hrest h
      · rfl

/-- Nor does a path look at anything else. -/
theorem occupied_congr (hback : ".." ∉ p.steps) (h : ∀ q, q <+: p.place → t'.node? q = t.node? q) :
    t'.occupied p = t.occupied p := by
  have hlocate : t'.locate p = t.locate p := by
    unfold locate
    split
    · rename_i hchecked
      obtain rfl := checked_eq_ok hchecked
      refine walk_congr ?_ fun q hq ↦ h q ?_
      · split <;> simp [hback]
      · rw [List.foldl_append] at hq
        split at hq <;> simpa [lead, DiskPath.place] using hq
    · rfl
  unfold occupied
  rw [hlocate]
  split
  · rename_i hplace
    rw [locate_eq_ok hplace, h p.place List.prefix_rfl]
  · rfl

/-- What a path leads through is there, if it leads on to something. -/
theorem occupied_of_steps {p' : DiskPath} {more : List String} (hmore : more ≠ [])
    (hpath : p.isAbsolute = p'.isAbsolute ∧ p.steps = p'.steps ++ more)
    (hchecked : checked p' = .ok p') (h : t.walk (start p) p.steps = .ok q) : t.occupied p' := by
  have hstart : start p = start p' := by rw [start, start, hpath.1]
  rw [hpath.2, hstart, walk_append] at h
  cases hwalk : t.walk (start p') p'.steps with
  | error e =>
    rw [hwalk] at h
    cases h
  | ok place =>
    rw [hwalk] at h
    obtain ⟨step, rest, rfl⟩ := List.exists_cons_of_ne_nil hmore
    have hfolder : t.node? place = some .folder := by
      simp only [Except.bind, walk] at h
      split at h
      · cases h
      · cases h
      · assumption
    have hlocate : t.locate p' = .ok place := by
      rw [locate, hchecked]
      dsimp only
      rw [walk_append, hwalk]
      split <;> simp [Except.bind, walk, hfolder, advance]
    rw [occupied, hlocate]
    simp [hfolder]

theorem node?_makeAlong_of_not_prefix (hback : ".." ∉ steps)
    (hq : ¬ q <+: steps.foldl lead place) :
    (t.makeAlong place steps).2.node? q = t.node? q := by
  induction steps generalizing t place with
  | nil => rfl
  | cons step rest ih =>
    obtain ⟨-, hrest⟩ := not_or.1 (hback ∘ List.mem_cons.2)
    rw [makeAlong]
    split
    · rfl
    · rename_i hwalk
      obtain ⟨-, rfl⟩ := walk_singleton hwalk
      split
      · exact ih hrest hq
      · rfl
      · have hne : q ≠ lead place step := by
          rintro rfl
          exact hq (prefix_foldl_lead hrest _)
        rw [ih hrest hq, node?_insert_of_ne t hne]

/-- Folders are made only on the way to where a path leads. -/
theorem node?_makeFolders_of_not_prefix (hback : ".." ∉ p.steps) (hq : ¬ q <+: p.place) :
    (t.makeFolders p).2.node? q = t.node? q := by
  have halong {names : List String} (h : names <+: p.steps) :
      (t.makeAlong (start p) names).2.node? q = t.node? q := by
    obtain ⟨more, hmore⟩ := h
    rw [← hmore, List.mem_append, not_or] at hback
    refine node?_makeAlong_of_not_prefix hback.1 fun hpre ↦ hq ?_
    rw [DiskPath.place, ← hmore, List.foldl_append]
    exact hpre.trans (prefix_foldl_lead hback.2 _)
  have hnames : (p.steps.reverse.dropWhile (· == ".")).reverse <+: p.steps :=
    List.rdropWhile_prefix (· == ".") (l := p.steps)
  unfold makeFolders
  split
  · rfl
  · split
    · rfl
    · rename_i hchecked
      obtain rfl := checked_eq_ok hchecked
      dsimp only
      split
      · have hmade := halong ((List.dropLast_prefix _).trans hnames)
        split <;> exact hmade
      · exact halong hnames

theorem makeAlong_of_short (hback : ".." ∉ steps) (hshort : Short steps)
    (hplace : t.node? place = some .folder)
    (hfiles : ∀ q bytes, q <+: steps.foldl lead place → t.node? q ≠ some (.file bytes)) :
    ∃ t', t.makeAlong place steps = (.ok (), t') ∧
      t'.node? (steps.foldl lead place) = some .folder := by
  induction steps generalizing t place with
  | nil => exact ⟨t, rfl, hplace⟩
  | cons step rest ih =>
    obtain ⟨hstep, hrest⟩ := not_or.1 (hback ∘ List.mem_cons.2)
    obtain ⟨hsize, hsizes⟩ := List.forall_mem_cons.1 hshort
    have hwalk : t.walk place [step] = .ok (lead place step) := by
      rw [walk, hplace, advance_of_short (Ne.symm hstep) hsize]
      rfl
    have hnext : lead place step <+: rest.foldl lead (lead place step) := prefix_foldl_lead hrest _
    rw [makeAlong, hwalk]
    dsimp only
    cases hnode : t.node? (lead place step) with
    | some n =>
      cases n with
      | folder => exact ih hrest hsizes hnode hfiles
      | file bytes => exact absurd hnode (hfiles _ bytes hnext)
    | none =>
      have hne : lead place step ≠ [] := by
        intro hnil
        rw [hnil, node?_nil] at hnode
        cases hnode
      refine ih hrest hsizes (node?_insert_self t hne .folder) fun q bytes hq ↦ ?_
      by_cases heq : q = lead place step
      · rw [heq, node?_insert_self t hne]
        simp
      · rw [node?_insert_of_ne t heq]
        exact hfiles q bytes hq

theorem makeFolders_of_short (hback : ".." ∉ p.steps) (hshort : Short p.steps)
    (htext : p.text = "" ∨ checked p = .ok p)
    (hdot : p.steps.getLast? = some "." → p.steps = ["."])
    (hstart : t.node? (start p) = some .folder)
    (hfiles : ∀ q bytes, q <+: p.place → t.node? q ≠ some (.file bytes)) :
    ∃ t', t.makeFolders p = (.ok (), t') ∧ t'.node? p.place = some .folder := by
  unfold makeFolders
  by_cases hempty : p.text = ""
  · have hsteps : p.steps = [] := by
      rw [DiskPath.steps_eq, hempty]
      rfl
    have hplace : p.place = start p := by rw [DiskPath.place, hsteps, List.foldl_nil]
    exact ⟨t, by simp [hempty], by rw [hplace, hstart]⟩
  · have hchecked := htext.resolve_left hempty
    rw [if_neg (by simpa using hempty), hchecked]
    dsimp only
    by_cases hend : p.steps.getLast? = some "."
    · have hplace : p.place = start p := by rw [DiskPath.place, hdot hend]; rfl
      refine ⟨t, ?_, by rw [hplace, hstart]⟩
      rw [hdot hend]
      simp [makeAlong, isFolder, walk, hstart]
    · have hnames : (p.steps.reverse.dropWhile (· == ".")).reverse = p.steps := by
        refine List.rdropWhile_eq_self_iff.2 fun hne hlast ↦ hend ?_
        rw [List.getLast?_eq_some_getLast hne, beq_iff_eq.1 hlast]
      rw [if_neg (by simpa using hend), hnames]
      exact makeAlong_of_short hback hshort hstart hfiles

structure Usable (p : DiskPath) : Prop where
  checked : checked p = .ok p
  noSlash : ¬ p.endsInSlash
  short : Short p.steps

theorem write_of_usable (h : Usable p) {bytes : ByteArray}
    (hwalk : t.walk (start p) p.steps = .ok p.place) (hfree : t.node? p.place ≠ some .folder) :
    t.write p bytes = (.ok (), t.insert p.place (.file bytes)) := by
  rw [write, h.checked]
  dsimp only
  rw [if_neg h.noSlash, hwalk]
  dsimp only
  split
  · contradiction
  · rfl

/-- A file that is written replaces none but a file, and stands where its path leads. -/
theorem write_eq_ok {bytes : ByteArray} (h : (t.write p bytes).1 = .ok ()) :
    Usable p ∧ t.walk (start p) p.steps = .ok p.place ∧ t.node? p.place ≠ some .folder ∧
      (t.write p bytes).2 = t.insert p.place (.file bytes) := by
  unfold write at h
  split at h
  · cases h
  · rename_i hchecked
    obtain rfl := checked_eq_ok hchecked
    split at h
    · cases h
    · rename_i p hslash
      split at h
      · cases h
      · rename_i hwalk
        obtain rfl : _ = p.place := walk_eq_ok hwalk
        split at h
        · cases h
        · rename_i hfolder
          have husable : Usable p := ⟨hchecked, hslash, short_of_walk hwalk⟩
          exact ⟨husable, hwalk, hfolder, by rw [write_of_usable husable hwalk hfolder]⟩

theorem checked_of_text {p' : DiskPath} (h : p'.text.toList <+: p.text.toList)
    (hchecked : checked p = .ok p) : p'.text = "" ∨ checked p' = .ok p' := by
  obtain ⟨rest, hrest⟩ := h
  have htext : p.text = p'.text ++ String.ofList rest :=
    String.toList_injective (by rw [String.toList_append, String.toList_ofList, hrest])
  by_cases hempty : p'.text = ""
  · exact .inl hempty
  · refine .inr ?_
    unfold checked at hchecked ⊢
    split at hchecked
    · cases hchecked
    · split at hchecked
      · cases hchecked
      · rename_i hnul
        split at hchecked
        · cases hchecked
        · rename_i hlong
          have hnul' : ¬ p'.text.toList.contains '\x00' := by
            intro hmem
            apply hnul
            rw [← hrest]
            simp_all
          have hlong' : ¬ pathLimit < p'.text.utf8ByteSize := by
            rw [htext, String.utf8ByteSize_append] at hlong
            omega
          rw [if_neg (by simpa using hempty), if_neg hnul', if_neg hlong']

/-- Where something is, a usable path leads to it. -/
theorem occupied_of_usable (hroot : t.Rooted) (h : Usable p) (hback : ".." ∉ p.steps)
    (hlast : p.steps.getLast? ≠ some ".") (hsome : (t.node? p.place).isSome) : t.occupied p := by
  have hwalk : t.walk (start p) p.steps = .ok p.place :=
    walk_of_folders hback h.short hlast fun q _ hbelow ↦ hroot.of_below hsome hbelow
  rw [occupied, locate, h.checked]
  dsimp only
  rw [if_neg h.noSlash, List.append_nil, hwalk]
  exact hsome

end Reshape.FileTree
