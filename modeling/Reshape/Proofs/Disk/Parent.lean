import Reshape.Proofs.Disk.Path

namespace Reshape.DiskPath

theorem dropIdle_suffix (s : List Char) : dropIdle s <:+ s := by
  induction s using dropIdle.induct with
  | case1 rest ih => exact ih.trans (List.suffix_cons '/' rest)
  | case2 rest ih => exact ih.trans (List.suffix_cons '.' ('/' :: rest))
  | case3 rest h h' => rw [dropIdle.eq_3 rest h h']

/-- Besides slashes, what is dropped from the end of a text are single dots. -/
theorem exists_stepsOf_dropIdle (s : List Char) :
    ∃ n, stepsOf s.reverse = stepsOf (dropIdle s).reverse ++ List.replicate n "." := by
  have hslash (s : List Char) : stepsOf (s ++ ['/']) = stepsOf s :=
    (stepsOf_append s []).trans (List.append_nil _)
  induction s using dropIdle.induct with
  | case1 rest ih =>
    obtain ⟨n, hn⟩ := ih
    exact ⟨n, by rw [List.reverse_cons, hslash, dropIdle, hn]⟩
  | case2 rest ih =>
    obtain ⟨n, hn⟩ := ih
    rw [List.reverse_cons, hslash] at hn
    have hdot : stepsOf ['.'] = ["."] := by decide
    have hsplit : ('.' :: '/' :: rest).reverse = rest.reverse ++ '/' :: ['.'] := by simp
    refine ⟨n + 1, ?_⟩
    rw [hsplit, stepsOf_append, hdot, dropIdle, List.replicate_succ', ← List.append_assoc, hn]
  | case3 rest h h' =>
    exact ⟨0, by rw [dropIdle.eq_3 rest h h', List.replicate_zero, List.append_nil]⟩

theorem dropIdle_ne_cons (s rest : List Char) :
    dropIdle s ≠ '/' :: rest ∧ dropIdle s ≠ '.' :: '/' :: rest := by
  induction s using dropIdle.induct with
  | case1 rest ih => exact ih
  | case2 rest ih => exact ih
  | case3 other h h' =>
    rw [dropIdle.eq_3 other h h']
    exact ⟨h rest, h' rest⟩

/-- A single dot is left at the end of a text only if there is nothing else. -/
theorem stepsOf_dropIdle_of_dot {s : List Char}
    (h : (stepsOf (dropIdle s).reverse).getLast? = some ".") :
    stepsOf (dropIdle s).reverse = ["."] := by
  have hne := dropIdle_ne_cons s
  generalize dropIdle s = rest at h hne
  have hlong {t : List Char} (ht : t ≠ []) (hslash : '/' ∉ t) (before : List Char)
      (hend : (stepsOf (before ++ t)).getLast? = some ".") : t <:+ ['.'] := by
    obtain ⟨init, last, hsteps⟩ := exists_stepsOf_append ht hslash before
    rw [hsteps, List.getLast?_concat, Option.some_inj] at hend
    have hlist := congrArg String.toList hend
    rw [String.toList_ofList] at hlist
    exact ⟨last, hlist⟩
  cases rest with
  | nil => cases h
  | cons c before =>
    have hc : '/' ≠ c := by
      rintro rfl
      exact (hne before).1 rfl
    rw [List.reverse_cons] at h ⊢
    by_cases hdot : c = '.'
    · subst hdot
      cases before with
      | nil => decide
      | cons d before =>
        have hd : '/' ≠ d := by
          rintro rfl
          exact (hne before).2 rfl
        rw [List.reverse_cons, List.append_assoc] at h
        have hsuffix := hlong (by simp) (by simp [hd]) _ h
        simpa using hsuffix.length_le
    · have hsuffix := hlong (by simp) (by simp [hc]) _ h
      exact absurd (by simpa using hsuffix.eq_of_length rfl) hdot

variable (p : DiskPath) {name : String}

theorem dropIdle_append_name (hlast : ∀ c ∈ name.toList.getLast?, c ≠ '.') (hne : name ≠ "")
    (hslash : '/' ∉ name.toList) (before : List Char) :
    (dropIdle (before ++ name.toList).reverse).dropWhile (· != '/') =
      before.reverse.dropWhile (· != '/') := by
  have hnil : name.toList ≠ [] := by simpa using hne
  obtain ⟨init, c, hname⟩ := (List.eq_nil_or_concat' name.toList).resolve_left hnil
  have hdot : c ≠ '.' := hlast c (by rw [hname, List.getLast?_concat]; rfl)
  have hc : c ≠ '/' := by
    rintro rfl
    exact hslash (by simp [hname])
  have hreverse : (before ++ name.toList).reverse = name.toList.reverse ++ before.reverse :=
    List.reverse_append
  have hhead : name.toList.reverse ++ before.reverse = c :: (init.reverse ++ before.reverse) := by
    simp [hname]
  have hkept : dropIdle (name.toList.reverse ++ before.reverse) =
      name.toList.reverse ++ before.reverse := by
    rw [hhead]
    exact dropIdle.eq_3 _ (by simp [hc]) (by simp [hdot])
  rw [hreverse, hkept, List.dropWhile_append_of_pos]
  intro d hd
  rw [bne_iff_ne]
  rintro rfl
  exact hslash (List.mem_reverse.1 hd)

theorem parent_join_eq (hlast : ∀ c ∈ name.toList.getLast?, c ≠ '.') (hne : name ≠ "")
    (hslash : '/' ∉ name.toList) :
    ∃ s, p.steps = stepsOf s ∧ s <+: (p.join name).text.toList ∧
      (s ≠ [] → p.isAbsolute = (s.head? == some '/')) ∧
      (p.join name).parent = if (dropIdle s.reverse).isEmpty && p.isAbsolute then ⟨"/"⟩
        else ⟨String.ofList (dropIdle s.reverse).reverse⟩ := by
  have hrelative := not_isAbsolute_of_not_mem hslash
  have habove := dropIdle_append_name hlast hne hslash
  rcases p.join_cases hrelative with ⟨hp, hjoin⟩ | ⟨s, hp, hjoin⟩
  · refine ⟨[], by rw [steps_eq, hp], List.nil_prefix, fun h ↦ absurd rfl h, ?_⟩
    have hparent := habove []
    rw [List.nil_append, ← hjoin] at hparent
    rw [parent, hparent, p.isAbsolute_join hrelative]
    rfl
  · have hparent := habove (s ++ ['/'])
    have htext : s ++ ['/'] ++ name.toList = (p.join name).text.toList := by simp [hjoin]
    have hidle : dropIdle ((s ++ ['/']).reverse.dropWhile (· != '/')) = dropIdle s.reverse := by
      simp [dropIdle]
    rw [htext] at hparent
    refine ⟨s, ?_, ⟨'/' :: name.toList, hjoin.symm⟩, fun hs ↦ ?_, ?_⟩
    · rcases hp with ⟨hp, -⟩ | hp
      · rw [steps_eq, hp]
      · rw [steps_eq, hp]
        exact (stepsOf_append s []).trans (List.append_nil _)
    · rcases hp with ⟨hp, -⟩ | hp
      · rw [isAbsolute, hp]
      · rw [isAbsolute, hp, List.head?_append_of_ne_nil _ hs]
    · rw [parent, hparent, hidle, p.isAbsolute_join hrelative]

/-- The folder that a named file is in, as the file's path spells it. -/
theorem parent_join (hlast : ∀ c ∈ name.toList.getLast?, c ≠ '.') (hne : name ≠ "")
    (hslash : '/' ∉ name.toList) :
    (p.join name).parent.isAbsolute = p.isAbsolute ∧
    (∃ n, p.steps = (p.join name).parent.steps ++ List.replicate n ".") ∧
    ((p.join name).parent.steps.getLast? = some "." → (p.join name).parent.steps = ["."]) ∧
    (p.join name).parent.text.toList <+: (p.join name).text.toList := by
  obtain ⟨s, hsteps, hpre, habsolute, hparent⟩ := p.parent_join_eq hlast hne hslash
  obtain ⟨n, hn⟩ := exists_stepsOf_dropIdle s.reverse
  rw [List.reverse_reverse] at hn
  have hbefore : (dropIdle s.reverse).reverse <+: s := by
    simpa using (dropIdle_suffix s.reverse).reverse
  rw [hparent]
  split
  · rename_i htop
    obtain ⟨hempty, htop⟩ : dropIdle s.reverse = [] ∧ p.isAbsolute = true := by simpa using htop
    rw [hempty] at hn
    refine ⟨htop.symm, ⟨n, hsteps.trans hn⟩, fun hdot ↦ (nomatch hdot), ?_⟩
    have hjoin := p.isAbsolute_join (not_isAbsolute_of_not_mem hslash)
    rw [htop, isAbsolute, beq_iff_eq, List.head?_eq_some_iff] at hjoin
    obtain ⟨rest, hrest⟩ := hjoin
    exact ⟨rest, hrest.symm⟩
  · rename_i htop
    have hparentSteps : (DiskPath.mk (String.ofList (dropIdle s.reverse).reverse)).steps =
        stepsOf (dropIdle s.reverse).reverse := by rw [steps_eq, String.toList_ofList]
    rw [hparentSteps]
    refine ⟨?_, ⟨n, hsteps.trans hn⟩, stepsOf_dropIdle_of_dot, ?_⟩
    · rw [isAbsolute, String.toList_ofList]
      by_cases hempty : dropIdle s.reverse = []
      · simp only [hempty, List.isEmpty_nil, Bool.true_and, Bool.not_eq_true] at htop
        rw [hempty, htop]
        rfl
      · obtain ⟨rest, hrest⟩ := hbefore
        have hs : s ≠ [] := by
          rintro rfl
          exact hempty rfl
        rw [habsolute hs, ← List.head?_append_of_ne_nil _ (by simpa using hempty), hrest]
    · rw [String.toList_ofList]
      exact hbefore.trans hpre

theorem foldl_lead_dots (n : Nat) (place : List String) :
    (List.replicate n ".").foldl lead place = place := by
  induction n with
  | zero => rfl
  | succ n ih =>
    rw [List.replicate_succ, List.foldl_cons]
    exact ih

/-- A path without steps back to a file that it names, which spells the folder above. -/
structure NamesFile (q : DiskPath) : Prop where
  back : ".." ∉ q.steps
  last : q.steps.getLast? ≠ some "."
  absolute : q.parent.isAbsolute = q.isAbsolute
  steps : ∃ n name, q.steps = q.parent.steps ++ List.replicate n "." ++ [name]
  dot : q.parent.steps.getLast? = some "." → q.parent.steps = ["."]
  text : q.parent.text.toList <+: q.text.toList

theorem namesFile_join (hlast : ∀ c ∈ name.toList.getLast?, c ≠ '.') (hne : name ≠ "")
    (hslash : '/' ∉ name.toList) (hback : ".." ∉ p.steps) : (p.join name).NamesFile := by
  obtain ⟨habsolute, ⟨n, hn⟩, hdot, htext⟩ := p.parent_join hlast hne hslash
  have hrelative := not_isAbsolute_of_not_mem hslash
  have hsteps : (p.join name).steps = p.steps ++ [name] := by
    rw [p.steps_join hrelative, steps_of_not_mem hslash, if_neg hne]
  refine ⟨?_, ?_, ?_, ⟨n, name, ?_⟩, hdot, htext⟩
  · rw [hsteps, List.mem_append, not_or]
    refine ⟨hback, fun hmem ↦ ?_⟩
    rw [← List.mem_singleton.1 hmem] at hlast
    exact absurd rfl (hlast '.' rfl)
  · rw [hsteps, List.getLast?_concat]
    intro hdot
    rw [Option.some_inj.1 hdot] at hlast
    exact absurd rfl (hlast '.' rfl)
  · rw [habsolute, p.isAbsolute_join hrelative]
  · rw [hsteps, hn]

namespace NamesFile

variable {q : DiskPath} (h : q.NamesFile)
include h

theorem start_parent : FileTree.start q.parent = FileTree.start q := by
  rw [FileTree.start, FileTree.start, h.absolute]

theorem exists_place : ∃ name, q.place = q.parent.place ++ [name] := by
  obtain ⟨n, name, hsteps⟩ := h.steps
  refine ⟨name, ?_⟩
  have hback := h.back
  have hlast := h.last
  rw [hsteps, List.getLast?_concat] at hlast
  rw [hsteps, List.mem_append, List.mem_singleton, not_or] at hback
  rw [place, place, hsteps, List.foldl_append, List.foldl_append, foldl_lead_dots, h.start_parent]
  have hdot : name ≠ "." := fun hdot ↦ hlast (congrArg some hdot)
  simp [lead, hdot, Ne.symm hback.2]

theorem parent_subset : q.parent.steps ⊆ q.steps := by
  obtain ⟨n, name, hsteps⟩ := h.steps
  rw [hsteps, List.append_assoc]
  exact List.subset_append_left _ _

end NamesFile

end Reshape.DiskPath
