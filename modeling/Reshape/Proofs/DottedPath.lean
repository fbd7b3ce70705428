import Mathlib.Data.List.Infix
import Mathlib.Data.Set.Function
import Reshape.DottedPath
import Reshape.Proofs.Text.Cut
import Reshape.Proofs.Text.Lines

namespace Reshape

/-- Two paths of which neither leads through the other. -/
def Apart (p q : List String) : Prop := ¬ p <+: q ∧ ¬ q <+: p

def Below (p q : List String) : Prop := q <+: p ∧ q ≠ p

instance (p q : List String) : Decidable (Apart p q) :=
  inferInstanceAs (Decidable (¬ p <+: q ∧ ¬ q <+: p))

instance (p q : List String) : Decidable (Below p q) :=
  inferInstanceAs (Decidable (q <+: p ∧ q ≠ p))

variable {p q : List String} {key : String}

theorem apart_cons : Apart (key :: p) (key :: q) ↔ Apart p q := by simp [Apart]

theorem below_cons : Below (key :: p) (key :: q) ↔ Below p q := by simp [Below]

theorem not_below_nil (q : List String) : ¬ Below [] q :=
  fun h ↦ h.2 (List.prefix_nil.1 h.1)

theorem Below.not_prefix (h : Below p q) : ¬ p <+: q :=
  fun hpq ↦ h.2 (h.1.eq_of_length_le hpq.length_le)

/-- Below a longer path by one step lies, from above, this path or what it lies below. -/
theorem below_concat_iff : Below (p ++ [key]) q ↔ q <+: p := by
  rw [Below, List.prefix_concat_iff]
  constructor
  · rintro ⟨rfl | h, hne⟩
    · exact absurd rfl hne
    · exact h
  · intro h
    refine ⟨.inr h, ?_⟩
    rintro rfl
    have hlength := h.length_le
    rw [List.length_append, List.length_singleton] at hlength
    omega

theorem apart_of_not_below (hne : p ≠ q) (h : ¬ Below p q) (h' : ¬ Below q p) : Apart p q :=
  ⟨fun hpq ↦ h' ⟨hpq, hne⟩, fun hqp ↦ h ⟨hqp, hne.symm⟩⟩

def stepAfter? (p q : List String) : Option String := if p <+: q then q[p.length]? else none

@[simp] theorem stepAfter?_nil (key : String) (q : List String) :
    stepAfter? [] (key :: q) = some key := by simp [stepAfter?]

@[simp] theorem stepAfter?_cons_self (key : String) (p q : List String) :
    stepAfter? (key :: p) (key :: q) = stepAfter? p q := by simp [stepAfter?]

theorem stepAfter?_cons_of_ne {key' : String} (h : key ≠ key') (p q : List String) :
    stepAfter? (key :: p) (key' :: q) = none := by simp [stepAfter?, h]

theorem Below.exists_eq_append (h : Below p q) : ∃ key rest, p = q ++ key :: rest := by
  obtain ⟨rest, rfl⟩ := h.1
  cases rest with
  | nil => simp [Below] at h
  | cons key rest => exact ⟨key, rest, rfl⟩

theorem stepAfter?_append (p : List String) (key : String) (rest : List String) :
    stepAfter? p (p ++ key :: rest) = some key := by simp [stepAfter?]

theorem stepAfter?_of_not_below (h : ¬ Below p q) : stepAfter? q p = none := by
  unfold stepAfter?
  split
  · rename_i hbefore
    obtain rfl : q = p := by_contra fun hne ↦ h ⟨hbefore, hne⟩
    exact List.getElem?_eq_none (Nat.le_refl _)
  · rfl

namespace DottedPath

def segmentsOf (text : String) : List String := (ofText text).segments

theorem ofText_injective : Function.Injective ofText :=
  Function.LeftInverse.injective text_ofText

theorem segments_injective : Function.Injective segments := by
  rintro ⟨head, rest⟩ ⟨head', rest'⟩ h
  obtain ⟨rfl, rfl⟩ := List.cons.inj h
  rfl

theorem segmentsOf_injective : Function.Injective segmentsOf :=
  segments_injective.comp ofText_injective

def Undotted (steps : List String) : Prop := ∀ step ∈ steps, '.' ∉ step.toList

instance (steps : List String) : Decidable (Undotted steps) :=
  inferInstanceAs (Decidable (∀ step ∈ steps, '.' ∉ step.toList))

theorem ofText_text {p : DottedPath} (h : Undotted p.segments) : ofText p.text = p := by
  have hpieces : ∀ piece ∈ p.head.toList :: p.rest.map String.toList, '.' ∉ piece := by
    simpa [Undotted, segments] using h
  simp [ofText, text, Text.splitOn_joinWith hpieces, Function.comp_def]

theorem text_cons (key next : String) (rest : List String) :
    text ⟨key, next :: rest⟩ = key ++ "." ++ text ⟨next, rest⟩ := by
  simp [text, Text.joinWith, String.append_assoc]

theorem text_append (s key : String) (rest : List String) :
    text ⟨s ++ key, rest⟩ = s ++ text ⟨key, rest⟩ := by
  cases rest <;> simp [text, Text.joinWith]

theorem dropLast_append_last (p : DottedPath) : p.segments.dropLast ++ [p.last] = p.segments := by
  obtain ⟨head, rest⟩ := p
  induction rest generalizing head with
  | nil => rfl
  | cons next rest ih =>
    have hlast : last ⟨head, next :: rest⟩ = last ⟨next, rest⟩ := List.getLastD_cons ..
    rw [hlast]
    exact congrArg (head :: ·) (ih next)

theorem segmentsOf_eq_map_parts (text : String) :
    segmentsOf text = (Text.parts '.' text.toList).map String.ofList := rfl

theorem toList_mem_parts {text step : String} (h : step ∈ segmentsOf text) :
    step.toList ∈ Text.parts '.' text.toList := by
  rw [segmentsOf_eq_map_parts] at h
  obtain ⟨piece, hpiece, rfl⟩ := List.mem_map.1 h
  rwa [String.toList_ofList]

theorem undotted_segmentsOf (text : String) : Undotted (segmentsOf text) :=
  fun _ h ↦ Text.not_mem_of_mem_splitOn (toList_mem_parts h)

theorem subset_of_mem_segmentsOf {text step : String} (h : step ∈ segmentsOf text) :
    step.toList ⊆ text.toList :=
  Text.subset_of_mem_parts (toList_mem_parts h)

theorem bijOn_segmentsOf : Set.BijOn segmentsOf Set.univ {steps | steps ≠ [] ∧ Undotted steps} := by
  refine ⟨fun s _ ↦ ⟨List.cons_ne_nil _ _, undotted_segmentsOf s⟩, segmentsOf_injective.injOn, ?_⟩
  rintro steps ⟨hne, hdots⟩
  obtain ⟨head, rest, rfl⟩ := List.exists_cons_of_ne_nil hne
  have hread : ofText (text ⟨head, rest⟩) = ⟨head, rest⟩ := ofText_text hdots
  exact ⟨text ⟨head, rest⟩, Set.mem_univ _, congrArg segments hread⟩

theorem ofText_text_iff {p : DottedPath} : ofText p.text = p ↔ Undotted p.segments := by
  constructor
  · intro h
    rw [← h]
    exact undotted_segmentsOf p.text
  · exact ofText_text

theorem length_ofText (s : String) : (ofText s).length = s.toList.count '.' + 1 := by
  rw [length, ← segmentsOf, segmentsOf_eq_map_parts, List.length_map, Text.length_parts]

theorem exists_tail {p : DottedPath} (h : p.isDotted) :
    ∃ tail, p.tails.head? = some tail ∧ p.segments = p.head :: tail.segments ∧
      p.text = p.head ++ "." ++ tail.text := by
  obtain ⟨head, rest⟩ := p
  cases rest with
  | nil => simp [isDotted] at h
  | cons next rest => exact ⟨⟨next, rest⟩, rfl, rfl, text_cons head next rest⟩

theorem suffix_of_mem_tails {p tail : DottedPath} (h : tail ∈ p.tails) :
    tail.segments <:+ p.segments := by
  obtain ⟨head, rest⟩ := p
  induction rest generalizing head with
  | nil => simp [tails, tails.go] at h
  | cons next rest ih =>
    have hcons : tails ⟨head, next :: rest⟩ = ⟨next, rest⟩ :: tails ⟨next, rest⟩ := rfl
    rw [hcons] at h
    rcases List.mem_cons.1 h with rfl | h
    · exact List.suffix_cons head (next :: rest)
    · exact (ih next h).trans (List.suffix_cons head (next :: rest))

theorem ofText_text_of_mem_tails {s : String} {tail : DottedPath} (h : tail ∈ (ofText s).tails) :
    ofText tail.text = tail :=
  ofText_text fun step hstep ↦ undotted_segmentsOf s step ((suffix_of_mem_tails h).subset hstep)

def cut? (text : String) : Option (String × String) :=
  (Text.splitOnce ['.'] text.toList).map fun (left, right) ↦ (.ofList left, .ofList right)

theorem cut?_text {p : DottedPath} (h : Undotted p.segments) :
    cut? p.text = p.tails.head?.map fun tail ↦ (p.head, tail.text) := by
  obtain ⟨head, rest⟩ := p
  have hhead : '.' ∉ head.toList := h head List.mem_cons_self
  cases rest with
  | nil =>
    have hnone : Text.splitOnce ['.'] head.toList = none := by
      simpa [Text.splitOnce_eq_none_iff, List.singleton_infix_iff] using hhead
    simp [cut?, text, Text.joinWith, tails, tails.go, hnone]
  | cons next rest =>
    have hcut := Text.splitOnce_char (r := (text ⟨next, rest⟩).toList) hhead
    simp [cut?, text_cons, tails, tails.go, hcut]

theorem cut?_eq (s : String) :
    cut? s = (ofText s).tails.head?.map fun tail ↦ ((ofText s).head, tail.text) := by
  have hcut := cut?_text (undotted_segmentsOf s)
  rwa [text_ofText] at hcut

/-- A text without a dot is one step, and any other is cut behind its first one. -/
theorem cut?_cases (s : String) : (cut? s = none ∧ ofText s = ⟨s, []⟩) ∨
    ∃ head next rest, cut? s = some (head, text ⟨next, rest⟩) ∧
      ofText s = ⟨head, next :: rest⟩ := by
  have hcut := cut?_eq s
  have htext := text_ofText s
  cases hp : ofText s with
  | mk head rest =>
    rw [hp] at hcut htext
    cases rest with
    | nil =>
      obtain rfl : head = s := by simpa [text, Text.joinWith] using htext
      exact .inl ⟨hcut, rfl⟩
    | cons next rest => exact .inr ⟨head, next, rest, hcut, rfl⟩

/-- Texts of which no two different ones lead through one another. -/
def Separate (texts : List String) : Prop :=
  ∀ a ∈ texts, ∀ b ∈ texts, a ≠ b → Apart (segmentsOf a) (segmentsOf b)

instance (texts : List String) : Decidable (Separate texts) :=
  inferInstanceAs (Decidable (∀ a ∈ texts, ∀ b ∈ texts, a ≠ b → _))

theorem Separate.of_subset {texts more : List String} (h : Separate more)
    (hsub : ∀ a ∈ texts, a ∈ more) : Separate texts :=
  fun a ha b hb ↦ h a (hsub a ha) b (hsub b hb)

end DottedPath

end Reshape
