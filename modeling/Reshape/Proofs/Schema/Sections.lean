import Reshape.Proofs.Latest
import Reshape.Schema.Line

namespace Reshape

/-- The last mapping of every model path, where the first one stands. -/
def FieldGroup.condensed (g : FieldGroup) : FieldGroup :=
  ⟨g.name, latest (·.modelPath) g.mappings⟩

namespace Schema

def body : List Line → List Mapping
  | [] => []
  | .blank :: ls => body ls
  | .mapping f :: ls => f :: body ls
  | .header _ :: _ => []

def sections : List Line → List FieldGroup
  | [] => []
  | .header name :: ls => ⟨name, body ls⟩ :: sections ls
  | .blank :: ls => sections ls
  | .mapping _ :: ls => sections ls

def Headed (ls : List Line) : Prop := body ls = []

/-- The last section of every name, where the first one stands. -/
def ofLines (ls : List Line) : Schema :=
  ⟨(latest (·.name) (sections ls)).map (·.condensed)⟩

variable {ls ms : List Line} {gs : List FieldGroup} {g : FieldGroup} {f : Mapping}

theorem body_append (h : sections ls = []) (ms : List Line) :
    body (ls ++ ms) = body ls ++ body ms := by
  induction ls with
  | nil => rfl
  | cons l ls ih =>
    cases l with
    | blank => exact ih h
    | header name => simp [sections] at h
    | mapping f => exact congrArg (f :: ·) (ih h)

theorem body_append_of_header (h : sections ls ≠ []) (ms : List Line) :
    body (ls ++ ms) = body ls := by
  induction ls with
  | nil => exact absurd rfl h
  | cons l ls ih =>
    cases l with
    | blank => exact ih h
    | header name => rfl
    | mapping f => exact congrArg (f :: ·) (ih h)

theorem Headed.of_append (h : Headed (ls ++ ms)) : Headed ls := by
  unfold Headed at h ⊢
  by_cases hls : sections ls = []
  · rw [body_append hls] at h
    exact (List.append_eq_nil_iff.1 h).1
  · rwa [body_append_of_header hls] at h

theorem Headed.concat_mapping_iff (h : Headed ls) (f : Mapping) :
    Headed (ls ++ [.mapping f]) ↔ sections ls ≠ [] := by
  unfold Headed at h ⊢
  by_cases hls : sections ls = []
  · simp [body_append hls, hls, body]
  · simp [body_append_of_header hls, hls, h]

theorem body_concat {l : Line} (hl : ∀ f, l ≠ .mapping f) : body (ls ++ [l]) = body ls := by
  by_cases h : sections ls = []
  · have hnil : body [l] = [] := by
      cases l with
      | blank | header => rfl
      | mapping f => exact absurd rfl (hl f)
    rw [body_append h, hnil, List.append_nil]
  · exact body_append_of_header h _

theorem Headed.concat (h : Headed ls) {l : Line} (hl : ∀ f, l ≠ .mapping f) :
    Headed (ls ++ [l]) :=
  (body_concat hl).trans h

theorem sections_append (h : sections ls = []) (ms : List Line) :
    sections (ls ++ ms) = sections ms := by
  induction ls with
  | nil => rfl
  | cons l ls ih =>
    cases l with
    | blank | mapping => exact ih h
    | header name => simp [sections] at h

theorem sections_concat_blank (ls : List Line) : sections (ls ++ [.blank]) = sections ls := by
  induction ls with
  | nil => rfl
  | cons l ls ih =>
    cases l with
    | blank | mapping => exact ih
    | header name => rw [List.cons_append, sections, sections, ih, body_concat (by simp)]

theorem sections_concat_header (ls : List Line) (name : String) :
    sections (ls ++ [.header name]) = sections ls ++ [⟨name, []⟩] := by
  induction ls with
  | nil => rfl
  | cons l ls ih =>
    cases l with
    | blank | mapping => exact ih
    | header name' =>
      rw [List.cons_append, sections, sections, ih, body_concat (by simp), List.cons_append]

theorem sections_concat_mapping (h : sections ls = gs ++ [g]) (f : Mapping) :
    sections (ls ++ [.mapping f]) = gs ++ [⟨g.name, g.mappings ++ [f]⟩] := by
  induction ls generalizing gs with
  | nil => simp [sections] at h
  | cons l ls ih =>
    cases l with
    | blank | mapping => exact ih h
    | header name =>
      cases gs with
      | nil =>
        obtain ⟨rfl, hnil⟩ := List.cons.inj h
        rw [List.cons_append, sections, body_append hnil, sections_append hnil]
        rfl
      | cons g' gs =>
        obtain ⟨rfl, hrest⟩ := List.cons.inj h
        have hne : sections ls ≠ [] := by
          rw [hrest]
          simp
        rw [List.cons_append, sections, body_append_of_header hne, ih hrest]
        rfl

theorem mapping_mem_of_mem_body (h : f ∈ body ls) : .mapping f ∈ ls := by
  induction ls with
  | nil => exact absurd h List.not_mem_nil
  | cons l ls ih =>
    cases l with
    | blank => exact List.mem_cons_of_mem _ (ih h)
    | header name => exact absurd h List.not_mem_nil
    | mapping f' =>
      rcases List.mem_cons.1 h with rfl | h
      · exact List.mem_cons_self
      · exact List.mem_cons_of_mem _ (ih h)

theorem header_mem_of_mem_sections (h : g ∈ sections ls) : .header g.name ∈ ls := by
  induction ls with
  | nil => exact absurd h List.not_mem_nil
  | cons l ls ih =>
    cases l with
    | blank | mapping => exact List.mem_cons_of_mem _ (ih h)
    | header name =>
      rcases List.mem_cons.1 h with rfl | h
      · exact List.mem_cons_self
      · exact List.mem_cons_of_mem _ (ih h)

theorem mapping_mem_of_mem_sections (h : g ∈ sections ls) (hf : f ∈ g.mappings) :
    .mapping f ∈ ls := by
  induction ls with
  | nil => exact absurd h List.not_mem_nil
  | cons l ls ih =>
    apply List.mem_cons_of_mem
    cases l with
    | blank | mapping => exact ih h
    | header name =>
      rcases List.mem_cons.1 h with rfl | h
      · exact mapping_mem_of_mem_body hf
      · exact ih h

theorem body_prefix_append (ls ms : List Line) : body ls <+: body (ls ++ ms) := by
  by_cases h : sections ls = []
  · rw [body_append h]
    exact List.prefix_append _ _
  · have heq : body (ls ++ ms) = body ls := body_append_of_header h ms
    exact heq ▸ List.prefix_rfl

theorem names_prefix_append (ls ms : List Line) :
    (sections ls).map (·.name) <+: (sections (ls ++ ms)).map (·.name) := by
  induction ls with
  | nil => exact List.nil_prefix
  | cons l ls ih =>
    cases l with
    | blank | mapping => exact ih
    | header name => exact List.cons_prefix_cons.2 ⟨rfl, ih⟩

/-- More lines make the sections that are there no shorter. -/
theorem exists_section_append (h : g ∈ sections ls) (ms : List Line) :
    ∃ g' ∈ sections (ls ++ ms), g.mappings <+: g'.mappings := by
  induction ls with
  | nil => exact absurd h List.not_mem_nil
  | cons l ls ih =>
    cases l with
    | blank | mapping => exact ih h
    | header name =>
      rcases List.mem_cons.1 h with rfl | h
      · exact ⟨_, List.mem_cons_self, body_prefix_append ls ms⟩
      · obtain ⟨g', hg', hpre⟩ := ih h
        exact ⟨g', List.mem_cons_of_mem _ hg', hpre⟩

structure Unrepeated (ls : List Line) : Prop where
  names : ((sections ls).map (·.name)).Nodup
  paths : ∀ g ∈ sections ls, (g.mappings.map (·.modelPath)).Nodup

theorem Unrepeated.of_append (h : Unrepeated (ls ++ ms)) : Unrepeated ls := by
  refine ⟨h.names.sublist (names_prefix_append ls ms).sublist, fun g hg ↦ ?_⟩
  obtain ⟨g', hg', hpre⟩ := exists_section_append hg ms
  exact (h.paths g' hg').sublist (hpre.map _).sublist

theorem Unrepeated.condensed_eq (h : Unrepeated ls) (hg : g ∈ sections ls) : g.condensed = g :=
  congrArg (FieldGroup.mk g.name) (latest_of_nodup (h.paths g hg))

/-- Where nothing is repeated, every section is a group. -/
theorem Unrepeated.ofLines_eq (h : Unrepeated ls) : ofLines ls = ⟨sections ls⟩ := by
  have hsame : (sections ls).map (·.condensed) = sections ls :=
    List.map_congr_left (fun _ ↦ h.condensed_eq) |>.trans (List.map_id _)
  rw [ofLines, latest_of_nodup h.names, hsame]

theorem groups_ofLines (ls : List Line) :
    (ofLines ls).groups = (latest (·.name) (sections ls)).map (·.condensed) := rfl

theorem condensed_concat (g : FieldGroup) (f : Mapping) :
    FieldGroup.condensed ⟨g.name, g.mappings ++ [f]⟩ =
      ⟨g.name, upsert (·.modelPath) f g.condensed.mappings⟩ :=
  congrArg (FieldGroup.mk g.name) (latest_concat g.mappings f)

theorem map_condensed_upsert (g : FieldGroup) (gs : List FieldGroup) :
    (upsert (·.name) g gs).map (·.condensed) =
      upsert (·.name) g.condensed (gs.map (·.condensed)) := by
  have hname : ∀ g : FieldGroup, g.condensed.name = g.name := fun _ ↦ rfl
  exact map_upsert hname g gs

theorem ofLines_concat_header (ls : List Line) (name : String) :
    (ofLines (ls ++ [.header name])).groups =
      upsert (·.name) ⟨name, []⟩ (ofLines ls).groups := by
  rw [groups_ofLines, sections_concat_header, latest_concat, map_condensed_upsert]
  rfl

/-- One more mapping goes to the group of the last section. -/
theorem ofLines_concat_mapping (h : sections ls = gs ++ [g]) (f : Mapping) :
    (ofLines (ls ++ [.mapping f])).groups =
      upsert (·.name) ⟨g.name, upsert (·.modelPath) f g.condensed.mappings⟩
        (ofLines ls).groups := by
  have hname : FieldGroup.name ⟨g.name, g.mappings ++ [f]⟩ = g.name := rfl
  have hlast := latest_concat_of_key gs hname
  rw [groups_ofLines, sections_concat_mapping h, hlast, map_condensed_upsert,
    condensed_concat, ← h]
  rfl

end Schema

end Reshape
