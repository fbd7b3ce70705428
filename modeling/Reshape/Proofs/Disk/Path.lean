import Reshape.Disk.Tree
import Reshape.Proofs.Text.Lines

namespace Reshape

open Text

def stepsOf (s : List Char) : List String :=
  ((parts '/' s).filter (!·.isEmpty)).map String.ofList

theorem stepsOf_append (s t : List Char) : stepsOf (s ++ '/' :: t) = stepsOf s ++ stepsOf t := by
  simp [stepsOf, parts_append]

theorem exists_stepsOf_append {t : List Char} (hne : t ≠ []) (h : '/' ∉ t) (s : List Char) :
    ∃ init last, stepsOf (s ++ t) = init ++ [String.ofList (last ++ t)] := by
  obtain ⟨init, last, hparts⟩ := parts_append_of_not_mem h s
  refine ⟨(init.filter (!·.isEmpty)).map String.ofList, last, ?_⟩
  simp [stepsOf, hparts, hne]

def lead (place : List String) (step : String) : List String :=
  if step = "." then place else if step = ".." then place.dropLast else place ++ [step]

theorem foldl_lead_of_not_mem {steps : List String} (h : ".." ∉ steps) (place : List String) :
    steps.foldl lead place = place ++ steps.filter (· ≠ ".") := by
  induction steps generalizing place with
  | nil => simp
  | cons step rest ih =>
    obtain ⟨hstep, hrest⟩ := not_or.1 (h ∘ List.mem_cons.2)
    rw [List.foldl_cons, ih hrest]
    by_cases hdot : step = "." <;> simp [lead, hdot, Ne.symm hstep]

namespace DiskPath

/-- The place that a path names, by its text alone. -/
def place (p : DiskPath) : List String := p.steps.foldl lead (FileTree.start p)

variable (p : DiskPath) {q : String}

theorem steps_eq : p.steps = stepsOf p.text.toList := rfl

theorem not_isAbsolute_of_not_mem (h : '/' ∉ q.toList) : ¬ (DiskPath.mk q).isAbsolute := by
  intro habsolute
  exact h (List.mem_of_head? (by simpa [isAbsolute] using habsolute))

theorem steps_of_not_mem (h : '/' ∉ q.toList) :
    (DiskPath.mk q).steps = if q = "" then [] else [q] := by
  rw [steps_eq, stepsOf, parts_of_not_mem h]
  by_cases hempty : q = "" <;> simp [hempty]

theorem steps_injective_of_not_mem {q' : String} (h : '/' ∉ q.toList) (h' : '/' ∉ q'.toList)
    (hsteps : (DiskPath.mk q).steps = (DiskPath.mk q').steps) : q = q' := by
  rw [steps_of_not_mem h, steps_of_not_mem h'] at hsteps
  split at hsteps <;> split at hsteps <;> simp_all

/-- A relative path comes after the path it is joined to and a slash, of which there is one. -/
theorem join_cases (h : ¬ (DiskPath.mk q).isAbsolute) :
    (p.text.toList = [] ∧ (p.join q).text.toList = q.toList) ∨
    ∃ s, (p.text.toList = s ∧ s ≠ [] ∨ p.text.toList = s ++ ['/']) ∧
      (p.join q).text.toList = s ++ '/' :: q.toList := by
  rw [join, if_neg h]
  by_cases hempty : p.text = ""
  · exact .inl (by simp [hempty])
  · refine .inr ?_
    have hne : p.text.toList ≠ [] := by simpa using hempty
    by_cases hslash : p.endsInSlash
    · have hlast : p.text.toList.getLast? = some '/' := by simpa [endsInSlash] using hslash
      obtain ⟨s, hs⟩ := List.getLast?_eq_some_iff.1 hlast
      exact ⟨s, .inr hs, by simp [hslash, hs]⟩
    · exact ⟨p.text.toList, .inl ⟨rfl, hne⟩, by simp [hslash, hempty]⟩

theorem isAbsolute_join (h : ¬ (DiskPath.mk q).isAbsolute) :
    (p.join q).isAbsolute = p.isAbsolute := by
  rcases join_cases p h with ⟨hp, hjoin⟩ | ⟨s, ⟨hp, hne⟩ | hp, hjoin⟩
  · simpa [isAbsolute, hp, hjoin] using h
  · rw [isAbsolute, isAbsolute, hjoin, hp, List.head?_append_of_ne_nil _ hne]
  · rw [isAbsolute, isAbsolute, hjoin, hp]
    cases s <;> rfl

theorem steps_join (h : ¬ (DiskPath.mk q).isAbsolute) :
    (p.join q).steps = p.steps ++ (DiskPath.mk q).steps := by
  rw [steps_eq, steps_eq, steps_eq]
  rcases join_cases p h with ⟨hp, hjoin⟩ | ⟨s, ⟨hp, -⟩ | hp, hjoin⟩
  · rw [hp, hjoin]
    rfl
  · rw [hp, hjoin, stepsOf_append]
  · have hnone : stepsOf [] = [] := rfl
    rw [hp, hjoin, stepsOf_append, stepsOf_append, hnone, List.append_nil]

theorem text_prefix_join (h : ¬ (DiskPath.mk q).isAbsolute) :
    p.text.toList <+: (p.join q).text.toList := by
  rcases join_cases p h with ⟨hp, -⟩ | ⟨s, ⟨hp, -⟩ | hp, hjoin⟩
  · rw [hp]
    exact List.nil_prefix
  · rw [hp, hjoin]
    exact List.prefix_append _ _
  · rw [hp, hjoin]
    exact ⟨q.toList, by simp⟩

/-- Two texts without slashes, of which the first may be empty, are one step each. -/
theorem join_join {stem name : String} (hstem : '/' ∉ stem.toList) (hname : '/' ∉ name.toList)
    (hne : name ≠ "") : ((p.join stem).join name).isAbsolute = p.isAbsolute ∧
      ((p.join stem).join name).steps = p.steps ++ ((DiskPath.mk stem).steps ++ [name]) := by
  have hstemRelative := not_isAbsolute_of_not_mem hstem
  have hnameRelative := not_isAbsolute_of_not_mem hname
  constructor
  · rw [isAbsolute_join _ hnameRelative, isAbsolute_join _ hstemRelative]
  · rw [steps_join _ hnameRelative, steps_join _ hstemRelative, steps_of_not_mem hname,
      if_neg hne, List.append_assoc]

theorem place_of_steps {p' : DiskPath} {more : List String}
    (h : p'.isAbsolute = p.isAbsolute ∧ p'.steps = p.steps ++ more) :
    p'.place = more.foldl lead p.place := by
  rw [place, h.2, List.foldl_append, place, FileTree.start, FileTree.start, h.1]

theorem place_join (h : ¬ (DiskPath.mk q).isAbsolute) :
    (p.join q).place = (DiskPath.mk q).steps.foldl lead p.place :=
  place_of_steps p ⟨isAbsolute_join p h, steps_join p h⟩

theorem exists_text_join (q : String) : ∃ s, (p.join q).text = s ++ q := by
  unfold join
  split
  · exact ⟨"", by simp⟩
  · split
    · exact ⟨_, rfl⟩
    · exact ⟨_, rfl⟩

/-- An ending that is longer than dots belongs to the name that a path leads to. -/
theorem exists_place_of_text {s t : String} (htext : p.text = s ++ t)
    (ht : 2 < t.toList.length) (hslash : '/' ∉ t.toList) :
    ∃ above name, p.place = above ++ [name] ∧ t.toList <:+ name.toList := by
  have hne : t.toList ≠ [] := by
    intro hnil
    simp [hnil] at ht
  obtain ⟨init, last, hsteps⟩ := exists_stepsOf_append hne hslash s.toList
  generalize hname : String.ofList (last ++ t.toList) = name at hsteps
  have hlong : 2 < name.toList.length := by
    rw [← hname, String.toList_ofList, List.length_append]
    omega
  have hdot : name ≠ "." := by
    intro h
    simp [h] at hlong
  have hdots : name ≠ ".." := by
    intro h
    simp [h] at hlong
  refine ⟨init.foldl lead (FileTree.start p), name, ?_, ?_⟩
  · rw [place, steps_eq, htext, String.toList_append, hsteps, List.foldl_append]
    simp [lead, hdot, hdots]
  · simp [← hname]

/-- Steps at the end of a path that are no dots tell it apart from others. -/
theorem components_of_steps {p : DiskPath} {base own : List String}
    (hsteps : p.steps = base ++ own) (hdot : "." ∉ own) : p.components =
      (if p.isAbsolute then "/" :: base.filter (· != ".")
        else base.take 1 ++ (base.drop 1).filter (· != ".")) ++ own := by
  have hfilter {names : List String} (h : "." ∉ names) : names.filter (· != ".") = names := by
    refine List.filter_eq_self.2 fun name hname ↦ bne_iff_ne.2 ?_
    rintro rfl
    exact h hname
  unfold components
  rw [hsteps]
  by_cases habsolute : p.isAbsolute
  · simp [habsolute, hfilter hdot]
  · rw [if_neg habsolute, if_neg habsolute]
    cases base with
    | cons first rest => simp [hfilter hdot]
    | nil =>
      cases own with
      | nil => rfl
      | cons first rest => simp [hfilter fun hrest ↦ hdot (List.mem_cons_of_mem first hrest)]

end DiskPath

end Reshape
