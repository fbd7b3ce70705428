import Reshape.Proofs.Generation.Places

namespace Reshape

def PathsDiffer (outputs : List (String × DiskPath)) : Prop :=
  outputs.Pairwise fun o o' ↦ ¬ o.2.same o'.2

instance (outputs : List (String × DiskPath)) : Decidable (PathsDiffer outputs) :=
  inferInstanceAs (Decidable (outputs.Pairwise _))

/-- Whether the collision is the first one among outputs that come after those that were seen: its
path is that of the first output with the path of an earlier one, and its first group is the one
that the earlier output belongs to. -/
def Collision.FirstAfter (c : Collision) (seen outputs : List (String × DiskPath)) : Prop :=
  ∃ before after earlier, outputs = before ++ (c.group, c.path) :: after ∧
    PathsDiffer (seen ++ before) ∧ (c.firstGroup, earlier) ∈ seen ++ before ∧
    earlier.same c.path

variable {outputs seen : List (String × DiskPath)} {o o' : String × DiskPath} {c : Collision}

theorem DiskPath.same_iff {p q : DiskPath} : p.same q ↔ p.components = q.components := by
  simp [DiskPath.same]

namespace PathsDiffer

theorem eq_of_same (h : PathsDiffer outputs) (ho : o ∈ outputs) (ho' : o' ∈ outputs)
    (hsame : o.2.same o'.2) : o = o' := by
  have : Std.Symm fun o o' : String × DiskPath ↦ ¬ o.2.same o'.2 :=
    ⟨fun o o' ↦ by simpa only [DiskPath.same_iff] using Ne.symm⟩
  by_contra hne
  exact h.forall ho ho' hne hsame

theorem concat (h : PathsDiffer seen) (hfree : ∀ e ∈ seen, ¬ e.2.same o.2) :
    PathsDiffer (seen ++ [o]) := by
  refine List.pairwise_append.2 ⟨h, List.pairwise_singleton _ _, fun e he o' ho' ↦ ?_⟩
  rw [List.mem_singleton.1 ho']
  exact hfree e he

end PathsDiffer

namespace Collision

theorem firstAfter_cons_of_found (hseen : PathsDiffer seen) {found : String × DiskPath}
    (hmem : found ∈ seen) (hsame : found.2.same o.2) :
    c.FirstAfter seen (o :: outputs) ↔ c = ⟨o.2, found.1, o.1⟩ := by
  constructor
  · rintro ⟨before, after, earlier, hsplit, hdiffer, hearlier, hpath⟩
    cases before with
    | nil =>
      obtain ⟨rfl, -⟩ := List.cons.inj hsplit
      rw [List.append_nil] at hearlier
      have hpaths : earlier.same found.2 :=
        DiskPath.same_iff.2 ((DiskPath.same_iff.1 hpath).trans (DiskPath.same_iff.1 hsame).symm)
      have hfound : (c.firstGroup, earlier) = found := hseen.eq_of_same hearlier hmem hpaths
      rw [← hfound]
    | cons o' before =>
      obtain ⟨rfl, -⟩ := List.cons.inj hsplit
      exact absurd hsame ((List.pairwise_append.1 hdiffer).2.2 found hmem o List.mem_cons_self)
  · rintro rfl
    exact ⟨[], outputs, found.2, rfl, by simpa using hseen, by simpa using hmem, hsame⟩

theorem firstAfter_cons_of_free (hfree : ∀ e ∈ seen, ¬ e.2.same o.2) :
    c.FirstAfter seen (o :: outputs) ↔ c.FirstAfter (seen ++ [o]) outputs := by
  unfold FirstAfter
  simp only [List.append_assoc, List.singleton_append]
  constructor
  · rintro ⟨before, after, earlier, hsplit, hdiffer, hearlier, hpath⟩
    cases before with
    | nil =>
      obtain ⟨rfl, -⟩ := List.cons.inj hsplit
      rw [List.append_nil] at hearlier
      exact absurd hpath (hfree (c.firstGroup, earlier) hearlier)
    | cons o' before =>
      obtain ⟨rfl, rfl⟩ := List.cons.inj hsplit
      exact ⟨before, after, earlier, rfl, hdiffer, hearlier, hpath⟩
  · rintro ⟨before, after, earlier, rfl, hrest⟩
    exact ⟨o :: before, after, earlier, rfl, hrest⟩

theorem FirstAfter.not_pathsDiffer (h : c.FirstAfter [] outputs) : ¬ PathsDiffer outputs := by
  obtain ⟨before, after, earlier, rfl, -, hearlier, hsame⟩ := h
  intro hdiffer
  exact (List.pairwise_append.1 hdiffer).2.2 (c.firstGroup, earlier) hearlier (c.group, c.path)
    List.mem_cons_self hsame

end Collision

/-- As long as the outputs differ, what has been seen grows, latest first. -/
theorem firstCollision_eq_some_iff (hseen : PathsDiffer seen.reverse) :
    firstCollision seen outputs = some c ↔ c.FirstAfter seen.reverse outputs := by
  induction outputs generalizing seen with
  | nil => simp [firstCollision, Collision.FirstAfter]
  | cons o rest ih =>
    rw [firstCollision]
    cases hfind : seen.find? fun earlier ↦ earlier.2.same o.2 with
    | some found =>
      have hmem : found ∈ seen.reverse := List.mem_reverse.2 (List.mem_of_find?_eq_some hfind)
      have hsame : found.2.same o.2 := by simpa using List.find?_some hfind
      rw [Collision.firstAfter_cons_of_found hseen hmem hsame]
      exact Option.some_inj.trans eq_comm
    | none =>
      have hfree : ∀ e ∈ seen.reverse, ¬ e.2.same o.2 := fun e he ↦
        List.find?_eq_none.1 hfind e (List.mem_reverse.1 he)
      have hnext := @ih (o :: seen)
      rw [List.reverse_cons] at hnext
      rw [Collision.firstAfter_cons_of_free hfree]
      exact hnext (hseen.concat hfree)

theorem firstCollision_eq_none_iff : firstCollision [] outputs = none ↔ PathsDiffer outputs := by
  constructor
  · exact fun h ↦ (pairwise_of_firstCollision h).2
  · intro h
    cases hfirst : firstCollision [] outputs with
    | none => rfl
    | some c =>
      have hafter : c.FirstAfter [] outputs :=
        (@firstCollision_eq_some_iff outputs [] c List.Pairwise.nil).1 hfirst
      exact absurd h hafter.not_pathsDiffer

namespace Project

variable {p : Project} {d : Schema}

def allOutputs (p : Project) (d : Schema) : List (String × DiskPath) :=
  GroupFiles.outputs (d.groups.map p.filesOf)

theorem plan_eq_error_iff : p.plan d = .error c ↔ c.FirstAfter [] (p.allOutputs d) := by
  have hfirst : firstCollision [] (p.allOutputs d) = some c ↔ c.FirstAfter [] (p.allOutputs d) :=
    firstCollision_eq_some_iff List.Pairwise.nil
  rw [← hfirst, plan, allOutputs]
  split
  · rename_i c' hfirst
    rw [hfirst, Except.error.injEq, Option.some_inj]
  · rename_i hfirst
    simp [hfirst]

theorem plan_eq_ok_iff {all : List GroupFiles} :
    p.plan d = .ok all ↔ PathsDiffer (p.allOutputs d) ∧ all = d.groups.map p.filesOf := by
  rw [← firstCollision_eq_none_iff, plan, allOutputs]
  split
  · rename_i c' hfirst
    simp [hfirst]
  · rename_i hfirst
    rw [Except.ok.injEq, and_iff_right hfirst, eq_comm]

/-- Groups whose types have one name have one file for their models. -/
theorem typeNames_nodup (h : PathsDiffer (p.allOutputs d)) :
    ((d.groups.map p.filesOf).map (·.typeName)).Nodup := by
  have hgroups := (List.pairwise_flatMap.1 h).2
  rw [List.Nodup, List.pairwise_map]
  refine hgroups.imp_of_mem fun {files files'} hfiles hfiles' hdiffer hname ↦ ?_
  obtain ⟨g, -, rfl⟩ := List.mem_map.1 hfiles
  obtain ⟨g', -, rfl⟩ := List.mem_map.1 hfiles'
  have hpascal : Words.pascal g.name = Words.pascal g'.name := hname
  refine hdiffer (g.name, _) List.mem_cons_self (g'.name, _) List.mem_cons_self ?_
  simp [DiskPath.same_iff, hpascal]

/-- A plan fails exactly if two of the planned files have one path, and tells of the first file
that has the path of an earlier one. Otherwise the planned files differ in their paths, every group
has its three, and no two types have one name. -/
theorem plan_collision (p : Project) (d : Schema) :
    ((∃ c, p.plan d = .error c) ↔
      ∃ o o', [o, o'].Sublist (p.allOutputs d) ∧ o.2.same o'.2) ∧
    (∀ c, p.plan d = .error c ↔ c.FirstAfter [] (p.allOutputs d)) ∧
    ∀ all, p.plan d = .ok all →
      PathsDiffer (p.allOutputs d) ∧ all.map (·.group) = d.names ∧
      (∀ files ∈ all, files.files.map (·.kind) = [.model, .entity, .mapper]) ∧
      (all.map (·.typeName)).Nodup := by
  refine ⟨?_, fun c ↦ plan_eq_error_iff, fun all hall ↦ ?_⟩
  · have hsublist : PathsDiffer (p.allOutputs d) ↔
        ∀ {o o'}, [o, o'].Sublist (p.allOutputs d) → ¬ o.2.same o'.2 :=
      List.pairwise_iff_forall_sublist
    constructor
    · rintro ⟨c, hc⟩
      have hsame := (plan_eq_error_iff.1 hc).not_pathsDiffer
      rw [hsublist] at hsame
      push Not at hsame
      exact hsame
    · rintro ⟨o, o', hboth, hsame⟩
      cases hplan : p.plan d with
      | error c => exact ⟨c, rfl⟩
      | ok all => exact absurd hsame (hsublist.1 (plan_eq_ok_iff.1 hplan).1 hboth)
  · obtain ⟨hdiffer, rfl⟩ := plan_eq_ok_iff.1 hall
    refine ⟨hdiffer, ?_, fun files hfiles ↦ ?_, typeNames_nodup hdiffer⟩
    · rw [List.map_map]
      rfl
    · obtain ⟨g, -, rfl⟩ := List.mem_map.1 hfiles
      rfl

/-- Two spellings of one name, with another group between them. -/
theorem plan_collision_spellings :
    let p : Project := ⟨⟨"."⟩, {}⟩
    let d : Schema := ⟨[⟨"ab_cd", []⟩, ⟨"e", []⟩, ⟨"abCd", []⟩]⟩
    let c : Collision := ⟨⟨"./app/ab-cd/ab-cd.model.ts"⟩, "ab_cd", "abCd"⟩
    p.plan d = .error c ∧ c.FirstAfter [] (p.allOutputs d) ∧
      ∃ all, p.plan ⟨d.groups.take 2⟩ = .ok all ∧ all.map (·.group) = ["ab_cd", "e"] ∧
        (all.map (·.typeName)).Nodup := by
  intro p d c
  have hfirst : firstCollision [] (p.allOutputs d) = some c := by decide +kernel
  have herror : p.plan d = .error c := by
    rw [allOutputs] at hfirst
    rw [plan, hfirst]
  have hok : (p.plan ⟨d.groups.take 2⟩).isOk := by decide +kernel
  cases hplan : p.plan ⟨d.groups.take 2⟩ with
  | error c' => simp [hplan, Except.isOk, Except.toBool] at hok
  | ok all =>
    obtain ⟨-, hgroups, -, hnames⟩ := (plan_collision p ⟨d.groups.take 2⟩).2.2 all hplan
    exact ⟨herror, ((plan_collision p d).2.1 c).1 herror, all, rfl, hgroups, hnames⟩

end Project

end Reshape
