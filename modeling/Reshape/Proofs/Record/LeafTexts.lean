import Reshape.Proofs.Record.Leaves

namespace Reshape

namespace DottedPath

/-- A text with keys after it, each joined by a dot, but for one that comes after the empty text. -/
def lengthen (text : String) (keys : List String) : String :=
  keys.foldl (fun text key ↦ if text.isEmpty then key else text ++ "." ++ key) text

def afterDots (text : String) : String := String.ofList (text.toList.dropWhile (· = '.'))

variable {key : String} {p : DottedPath}

theorem lengthen_empty_cons (key : String) (rest : List String) :
    lengthen "" (key :: rest) = lengthen key rest := rfl

theorem lengthen_of_ne_empty (h : key ≠ "") (rest : List String) :
    lengthen key rest = text ⟨key, rest⟩ := by
  induction rest generalizing key with
  | nil => simp [lengthen, text, Text.joinWith]
  | cons next rest ih =>
    have hstep : lengthen key (next :: rest) = lengthen (key ++ "." ++ next) rest := by
      simp [lengthen, h]
    rw [hstep, ih (by simp), text_append, text_cons]

theorem afterDots_of_head {text : String} (h : text.toList.head? ≠ some '.') :
    afterDots text = text := by
  have hdrop : text.toList.dropWhile (· = '.') = text.toList := by
    cases htext : text.toList with
    | nil => rfl
    | cons c cs =>
      have hc : c ≠ '.' := by simpa [htext] using h
      simp [hc]
  rw [afterDots, hdrop, String.ofList_toList]

theorem head?_afterDots (text : String) : (afterDots text).toList.head? ≠ some '.' := by
  intro h
  have hnot := List.head?_dropWhile_not (· = '.') text.toList
  simp only [afterDots, String.toList_ofList] at h
  simp [h] at hnot

theorem afterDots_dot_append (text : String) : afterDots ("." ++ text) = afterDots text := by
  simp [afterDots]

theorem afterDots_text (hkey : key ≠ "") (hdot : '.' ∉ key.toList) (rest : List String) :
    afterDots (text ⟨key, rest⟩) = text ⟨key, rest⟩ := by
  refine afterDots_of_head fun hhead ↦ hdot ?_
  have hne : key.toList ≠ [] := by simpa using hkey
  have hfirst : (text ⟨key, rest⟩).toList.head? = key.toList.head? := by
    cases rest with
    | nil => simp [text, Text.joinWith]
    | cons next rest => simp [text_cons, List.head?_append_of_ne_nil _ hne]
  exact List.mem_of_head? (hfirst ▸ hhead)

/-- Empty keys that a path begins with leave nothing behind, so the dots after them are lost. -/
theorem lengthen_segments (h : Undotted p.segments) :
    lengthen "" p.segments = afterDots p.text := by
  obtain ⟨key, rest⟩ := p
  rw [segments, lengthen_empty_cons]
  induction rest generalizing key with
  | nil =>
    by_cases hkey : key = ""
    · rw [hkey]
      rfl
    · rw [lengthen_of_ne_empty hkey, afterDots_text hkey (h key List.mem_cons_self)]
  | cons next rest ih =>
    by_cases hkey : key = ""
    · rw [hkey, lengthen_empty_cons, text_cons, String.empty_append, afterDots_dot_append]
      exact ih next fun step hstep ↦ h step (List.mem_cons_of_mem _ hstep)
    · rw [lengthen_of_ne_empty hkey, afterDots_text hkey (h key List.mem_cons_self)]

end DottedPath

open DottedPath

namespace Value

theorem leafTextsBelow_eq {fields : List (String × Value)}
    (h : ∀ e ∈ fields, ∀ path, leafTextsAt path e.2 = e.2.leaves.map (lengthen path ·.1))
    (path : String) : leafTextsBelow path fields =
      (leavesBelow fields).map (lengthen path ·.1.segments) := by
  induction fields with
  | nil => rfl
  | cons e rest ih =>
    obtain ⟨he, hothers⟩ := List.forall_mem_cons.1 h
    rw [leafTextsBelow, leavesBelow, List.map_append, List.map_map, he, ih hothers]
    rfl

theorem leafTextsAt_eq (path : String) (v : Value) :
    leafTextsAt path v = v.leaves.map (lengthen path ·.1) := by
  induction v using Value.leafwise generalizing path with
  | leaf v hleaf =>
    rw [leaves_of_isLeaf hleaf]
    cases v with
    | record fields =>
      obtain rfl : fields = [] := by simpa [isLeaf] using hleaf
      rfl
    | _ => rfl
  | record fields hne ih =>
    have hopen : leafTextsAt path (.record fields) = leafTextsBelow path fields := by
      obtain ⟨e, rest, rfl⟩ := List.exists_cons_of_ne_nil hne
      rfl
    rw [hopen, leafTextsBelow_eq (fun e he path ↦ ih e he path), leaves_record hne, List.map_map]
    rfl

end Value

namespace Record

variable {r : Record}

theorem leafTexts_eq_map_lengthen (r : Record) :
    r.leafTexts = r.leaves.map (lengthen "" ·.1.segments) :=
  Value.leafTextsBelow_eq (fun e _ path ↦ Value.leafTextsAt_eq path e.2) ""

/-- Where no key of the record itself is empty, the texts are those of the paths. -/
theorem leafTexts_eq_map_text (h : "" ∉ Keyed.keys r) :
    r.leafTexts = r.leaves.map (·.1.text) := by
  rw [leafTexts_eq_map_lengthen]
  refine List.map_congr_left fun ⟨p, x⟩ hl ↦ ?_
  have hhead : p.head ≠ "" := fun he ↦ h (he ▸ head_mem_keys_of_mem_leaves hl)
  exact lengthen_of_ne_empty hhead p.rest

end Record

end Reshape
