import Mathlib.Data.List.Chain
import Reshape.Proofs.Text.Bicameral
import Reshape.Proofs.Text.Identifier

namespace Reshape.Words

open Text

def SpaceAlone (a b : Char) : Prop := ¬ (a = ' ' ∧ isAttached b) ∧ ¬ (isPrepended a ∧ b = ' ')

instance (a b : Char) : Decidable (SpaceAlone a b) := inferInstanceAs (Decidable (_ ∧ _))

/-- Whether no mark belongs to a separator. -/
def Separated (s : String) : Prop := (spaced s).IsChain SpaceAlone

instance (s : String) : Decidable (Separated s) :=
  inferInstanceAs (Decidable ((spaced s).IsChain _))

/-- Whether these characters make a name once the first one is raised. -/
def Nameable (letters : List Char) : Prop :=
  (letters.head?.bind fun c ↦ (upper c).head?).any startsIdentifier ∧
    ∀ c ∈ letters, continuesIdentifier c

instance (letters : List Char) : Decidable (Nameable letters) :=
  @instDecidableAnd _ _ _ (List.decidableBAll _ _)

variable {c : Char} {w t : List Char} {ws : List (List Char)} {s : String}

theorem ne_space_of_isAlphanumeric (h : isAlphanumeric c) : c ≠ ' ' := by
  rintro rfl
  exact absurd h (by decide)

theorem alone_space : Alone ' ' := by decide

theorem mem_flatten_words (hc : c ∈ s.toList) (hletter : isAlphanumeric c) :
    c ∈ (words s).flatten := by
  have hspaced : c ∈ (clusters (spaced s)).flatten := by
    rw [flatten_clusters]
    exact List.mem_map.2 ⟨c, hc, if_pos hletter⟩
  obtain ⟨cluster, hcluster, hmem⟩ := List.mem_flatten.1 hspaced
  rw [flatten_words]
  refine List.mem_flatten.2 ⟨cluster, List.mem_filter.2 ⟨hcluster, ?_⟩, hmem⟩
  refine decide_eq_true fun hspace ↦ ne_space_of_isAlphanumeric hletter ?_
  rwa [hspace, List.mem_singleton] at hmem

/-- Something is left of a text exactly if there is a letter or a number in it. -/
theorem flatten_words_ne_nil_iff :
    (words s).flatten ≠ [] ↔ ∃ c ∈ s.toList, isAlphanumeric c := by
  constructor
  · intro hne
    by_contra hnone
    have hspaced : ∀ c ∈ spaced s, c = ' ' := by
      simp only [spaced, List.forall_mem_map]
      exact fun c hc ↦ if_neg fun hletter ↦ hnone ⟨c, hc, hletter⟩
    have halone : ∀ c ∈ spaced s, Alone c := fun c hc ↦ hspaced c hc ▸ alone_space
    refine hne ?_
    rw [flatten_words, clusters_of_alone halone, List.filter_eq_nil_iff.2, List.flatten_nil]
    simpa using hspaced
  · rintro ⟨c, hc, hletter⟩
    exact List.ne_nil_of_mem (mem_flatten_words hc hletter)

/-- Only spaces are left out of the words if all of them make up clusters. -/
theorem flatten_clusters_of_isChain (h : t.IsChain SpaceAlone) :
    ((clusters t).filter (· ≠ [' '])).flatten = t.filter (· ≠ ' ') := by
  fun_induction clusters t with
  | case1 => rfl
  | case2 c => by_cases hc : c = ' ' <;> simp [hc]
  | case3 c next rest hnil ih =>
    have hflatten := flatten_clusters (next :: rest)
    rw [hnil] at hflatten
    cases hflatten
  | case4 c next rest cluster others hclusters hjoined ih =>
    obtain ⟨⟨hattached, hprepended⟩, hrest⟩ := List.isChain_cons_cons.1 h
    have hne : c ≠ ' ' ∧ next ≠ ' ' := by
      rcases Bool.or_eq_true_iff.1 hjoined with hmark | hmark
      · refine ⟨fun hc ↦ hattached ⟨hc, hmark⟩, ?_⟩
        rintro rfl
        rw [alone_space.1] at hmark
        cases hmark
      · refine ⟨?_, fun hnext ↦ hprepended ⟨hmark, hnext⟩⟩
        rintro rfl
        rw [alone_space.2] at hmark
        cases hmark
    have hcluster : cluster ≠ [' '] := by
      rintro rfl
      have hflatten := flatten_clusters (next :: rest)
      rw [hclusters] at hflatten
      exact hne.2 (List.cons.inj hflatten).1.symm
    have hboth := ih hrest
    rw [hclusters, List.filter_cons_of_pos (by simpa using hcluster)] at hboth
    rw [List.filter_cons_of_pos (by simp [hne.1]), List.filter_cons_of_pos (by simp [hne.1]),
      ← hboth]
    rfl
  | case5 c next rest cluster others hclusters hjoined ih =>
    have hfirst : (([c] :: clusters (next :: rest)).filter (· ≠ [' '])).flatten =
        [c].filter (· ≠ ' ') ++ ((clusters (next :: rest)).filter (· ≠ [' '])).flatten := by
      by_cases hc : c = ' ' <;> simp [hc]
    rw [← hclusters, hfirst, ih (List.isChain_cons_cons.1 h).2]
    exact (List.filter_append [c] (next :: rest)).symm

theorem filter_spaced (s : String) :
    (spaced s).filter (· ≠ ' ') = s.toList.filter isAlphanumeric := by
  rw [spaced]
  induction s.toList with
  | nil => rfl
  | cons c rest ih =>
    rw [List.map_cons, List.filter_cons, List.filter_cons, ih]
    by_cases hc : isAlphanumeric c
    · simp [hc, ne_space_of_isAlphanumeric hc]
    · simp [hc]

theorem flatten_words_of_separated (h : Separated s) :
    (words s).flatten = s.toList.filter isAlphanumeric := by
  rw [flatten_words, flatten_clusters_of_isChain h, filter_spaced]

theorem forall_capitalize_iff :
    (∀ d ∈ capitalize w, continuesIdentifier d) ↔ ∀ c ∈ w, continuesIdentifier c := by
  cases w with
  | nil => rfl
  | cons c rest =>
    rw [capitalize, List.forall_mem_append, List.forall_mem_cons, forall_upper_iff,
      forall_lowerCase_iff]

theorem forall_flatMap_capitalize_iff :
    (∀ d ∈ ws.flatMap capitalize, continuesIdentifier d) ↔
      ∀ c ∈ ws.flatten, continuesIdentifier c := by
  rw [List.forall_mem_flatMap, List.forall_mem_flatten]
  exact forall₂_congr fun w _ ↦ forall_capitalize_iff

theorem head?_flatMap_capitalize (ws : List (List Char)) :
    (ws.flatMap capitalize).head? = ws.flatten.head?.bind fun c ↦ (upper c).head? := by
  induction ws with
  | nil => rfl
  | cons w ws ih =>
    cases w with
    | nil => exact ih
    | cons c w =>
      rw [List.flatMap_cons, capitalize, List.append_assoc,
        List.head?_append_of_ne_nil _ (upper_ne_nil c)]
      rfl

/-- Two texts with their words raised make a name exactly if what their words hold does. -/
theorem isIdentifier_pascal_append (s s' : String) :
    IsIdentifier (pascal s ++ pascal s') ↔ Nameable ((words s).flatten ++ (words s').flatten) := by
  have htext : (pascal s ++ pascal s').toList = (words s ++ words s').flatMap capitalize := by
    simp [pascal]
  rw [IsIdentifier, Nameable, htext, head?_flatMap_capitalize, forall_flatMap_capitalize_iff,
    List.flatten_append]

theorem pascal_ne_empty_iff : pascal s ≠ "" ↔ ∃ c ∈ s.toList, isAlphanumeric c := by
  have hhead : (pascal s).toList.head? = none ↔ (words s).flatten = [] := by
    rw [pascal, String.toList_ofList, head?_flatMap_capitalize]
    cases (words s).flatten with
    | nil => simp
    | cons c rest => simp [upper_ne_nil]
  rw [← flatten_words_ne_nil_iff, Ne, Ne, ← hhead, List.head?_eq_none_iff, String.toList_eq_nil_iff]

theorem Nameable.ne_nil {letters : List Char} (h : Nameable letters) : letters ≠ [] := by
  rintro rfl
  exact Bool.false_ne_true h.1

theorem nameable_append {letters more : List Char} (h : letters ≠ []) :
    Nameable (letters ++ more) ↔ Nameable letters ∧ ∀ c ∈ more, continuesIdentifier c := by
  rw [Nameable, Nameable, List.head?_append_of_ne_nil _ h, List.forall_mem_append, and_assoc]

end Reshape.Words
