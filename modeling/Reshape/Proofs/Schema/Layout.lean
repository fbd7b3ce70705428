import Reshape.Proofs.Schema.WellFormed

namespace Reshape

def Text.Gap (s : List Char) : Prop := Text.Blanks s ∧ '\n' ∉ s

instance (s : List Char) : Decidable (Text.Gap s) :=
  inferInstanceAs (Decidable (Text.Blanks s ∧ '\n' ∉ s))

open Text

namespace Line

/-- What a line is written with. A target is written even where it is the model path. -/
def tokens : Line → List (List Char)
  | .blank => []
  | .header name => [name.toList, [':']]
  | .mapping f => [f.modelPath.toList, [':'], f.type.toList, arrow, f.entityPath.toList]

inductive Spaced : List (List Char) → List Char → Prop where
  | nil {gap : List Char} (hgap : Gap gap) : Spaced [] gap
  | cons {gap token rest : List Char} {tokens : List (List Char)} (hgap : Gap gap)
      (hrest : Spaced tokens rest) : Spaced (token :: tokens) (gap ++ token ++ rest)

variable {l : Line} {ls : List Line} {raw text token : List Char} {tokens : List (List Char)}

theorem spaced_nil_iff : Spaced [] raw ↔ Gap raw := by
  constructor
  · intro h
    cases h with
    | nil hgap => exact hgap
  · exact .nil

theorem spaced_cons_iff : Spaced (token :: tokens) raw ↔
    ∃ gap rest, Gap gap ∧ Spaced tokens rest ∧ raw = gap ++ token ++ rest := by
  constructor
  · intro h
    cases h with
    | cons hgap hrest => exact ⟨_, _, hgap, hrest, rfl⟩
  · rintro ⟨gap, rest, hgap, hrest, rfl⟩
    exact .cons hgap hrest

theorem Spaced.lineFeed_not_mem (h : Spaced tokens raw) (ht : ∀ t ∈ tokens, '\n' ∉ t) :
    '\n' ∉ raw := by
  induction h with
  | nil hgap => exact hgap.2
  | cons hgap hrest ih =>
    simp only [List.forall_mem_cons] at ht
    simp only [List.mem_append, not_or]
    exact ⟨⟨hgap.2, ht.1⟩, ih ht.2⟩

theorem IsName.lineFeed_not_mem {name : List Char} (h : IsName name) : '\n' ∉ name :=
  fun hmem ↦ (h.word '\n' hmem).2 rfl

theorem WellFormed.lineFeed_not_mem (h : l.WellFormed) : ∀ t ∈ l.tokens, '\n' ∉ t := by
  cases l with
  | blank => simp [Line.tokens]
  | header name =>
    have hname : '\n' ∉ name.toList := IsName.lineFeed_not_mem h
    simp [Line.tokens, hname]
  | mapping f =>
    have hf : f.WellFormed := h
    simp [Line.tokens, arrow, hf.path_oneLine, hf.type_oneLine, hf.target_oneLine]

/-- No token of a well-formed line is cut at a place other than its ends. -/
theorem Spaced.written (h : Spaced l.tokens raw) (hl : l.WellFormed) : Written raw l := by
  cases l with
  | blank => exact .blank (spaced_nil_iff.1 h).1
  | header name =>
    simp only [Line.tokens, spaced_cons_iff, spaced_nil_iff] at h
    obtain ⟨before, _, hbefore, ⟨gap, after, hgap, hafter, rfl⟩, rfl⟩ := h
    have hwritten := Written.core hbefore.1 (Core.header hl hgap.1) hafter.1
    simpa using hwritten
  | mapping f =>
    simp only [Line.tokens, spaced_cons_iff, spaced_nil_iff] at h
    obtain ⟨before, _, hbefore, ⟨gap₁, _, hgap₁, ⟨gap₂, _, hgap₂, ⟨gap₃, _, hgap₃,
      ⟨gap₄, after, hgap₄, hafter, rfl⟩, rfl⟩, rfl⟩, rfl⟩, rfl⟩ := h
    have hf : f.WellFormed := hl
    have hside := ModelSide.mk hf.path hgap₁.1 hgap₂.1 hf.type
    have hcore := Core.placed hside hgap₃.1 hgap₄.1 hf.target
    have hwritten := Written.core hbefore.1 hcore hafter.1
    simpa using hwritten

/-- The lines of a text, each ended by a line feed with or without a carriage return. The ending of
the last one may be missing, but what is then left of the text is no line if it is empty. -/
inductive LaidOut : List Line → List Char → Prop where
  | nil : LaidOut [] []
  | last {l : Line} {raw : List Char} (hraw : Spaced l.tokens raw) (hne : raw ≠ []) :
    LaidOut [l] raw
  | lf {l : Line} {ls : List Line} {raw text : List Char} (hraw : Spaced l.tokens raw)
      (hrest : LaidOut ls text) : LaidOut (l :: ls) (raw ++ '\n' :: text)
  | crlf {l : Line} {ls : List Line} {raw text : List Char} (hraw : Spaced l.tokens raw)
      (hrest : LaidOut ls text) : LaidOut (l :: ls) (raw ++ '\r' :: '\n' :: text)

theorem Written.dropReturn (h : Written raw l) : Written (dropReturn raw) l := by
  rw [← ofText_eq_ok_iff] at h ⊢
  rwa [ofText_congr (trim_dropReturn raw)]

theorem LaidOut.forall₂ (h : LaidOut ls text) (hls : ∀ l ∈ ls, l.WellFormed) :
    List.Forall₂ Written (lines text) ls := by
  induction h with
  | nil => exact .nil
  | last hraw hne =>
    rw [List.forall_mem_singleton] at hls
    rw [lines_of_not_mem hne (hraw.lineFeed_not_mem hls.lineFeed_not_mem)]
    exact .cons (hraw.written hls) .nil
  | lf hraw hrest ih =>
    rw [List.forall_mem_cons] at hls
    rw [lines_append (hraw.lineFeed_not_mem hls.1.lineFeed_not_mem)]
    exact .cons (hraw.written hls.1).dropReturn (ih hls.2)
  | @crlf l ls raw text hraw hrest ih =>
    rw [List.forall_mem_cons] at hls
    have hline : '\n' ∉ raw ++ ['\r'] := by
      simpa using hraw.lineFeed_not_mem hls.1.lineFeed_not_mem
    -- Of several carriage returns in front of a line feed only the last belongs to the ending.
    rw [List.append_cons, lines_append hline, dropReturn_concat]
    exact .cons (hraw.written hls.1) (ih hls.2)

end Line

namespace Schema

variable {ls : List Line} {d : Schema}

def lines (d : Schema) : List Line :=
  d.groups.flatMap fun g ↦ .header g.name :: g.mappings.map .mapping

def Layout (d : Schema) (text : String) : Prop :=
  ∃ ls, ls.filter (· ≠ .blank) = d.lines ∧ Line.LaidOut ls text.toList

theorem body_map_mapping (fs : List Mapping) (ms : List Line) :
    body (fs.map .mapping ++ ms) = fs ++ body ms := by
  induction fs with
  | nil => rfl
  | cons f fs ih => exact congrArg (f :: ·) ih

theorem sections_map_mapping (fs : List Mapping) (ms : List Line) :
    sections (fs.map .mapping ++ ms) = sections ms := by
  induction fs with
  | nil => rfl
  | cons f fs ih => exact ih

theorem body_lines (d : Schema) : body d.lines = [] := by
  obtain ⟨groups⟩ := d
  cases groups <;> rfl

theorem sections_lines (d : Schema) : sections d.lines = d.groups := by
  obtain ⟨groups⟩ := d
  induction groups with
  | nil => rfl
  | cons g groups ih =>
    have hcons : lines ⟨g :: groups⟩ =
        .header g.name :: (g.mappings.map .mapping ++ lines ⟨groups⟩) := rfl
    rw [hcons, sections, body_map_mapping, body_lines, List.append_nil, sections_map_mapping, ih]

theorem body_filter (ls : List Line) : body (ls.filter (· ≠ .blank)) = body ls := by
  induction ls with
  | nil => rfl
  | cons l ls ih =>
    cases l with
    | blank => simpa [body] using ih
    | header name => simp [body]
    | mapping f => simpa [body] using ih

theorem sections_filter (ls : List Line) : sections (ls.filter (· ≠ .blank)) = sections ls := by
  induction ls with
  | nil => rfl
  | cons l ls ih =>
    have hbody := body_filter ls
    cases l with
    | blank => simpa [sections] using ih
    | header name =>
      have hkeep : (Line.header name :: ls).filter (· ≠ .blank) =
          .header name :: ls.filter (· ≠ .blank) := by simp
      rw [hkeep, sections, sections, hbody, ih]
    | mapping f => simpa [sections] using ih

theorem WellFormed.lines (h : d.WellFormed) : ∀ l ∈ d.lines, l.WellFormed := by
  intro l hl
  obtain ⟨g, hg, hl⟩ := List.mem_flatMap.1 hl
  rcases List.mem_cons.1 hl with rfl | hl
  · exact (h.groups g hg).name
  · obtain ⟨f, hf, rfl⟩ := List.mem_map.1 hl
    exact (h.groups g hg).mappings f hf

/-- However a well-formed schema is laid out, it is read back. -/
theorem parse_of_layout (d : Schema) (hd : d.WellFormed) (text : String) (h : d.Layout text)
    (repeats : Repeats) : parse repeats text = .ok d := by
  obtain ⟨ls, hfilter, hlaid⟩ := h
  have hls : ∀ l ∈ ls, l.WellFormed := by
    intro l hl
    by_cases hblank : l = .blank
    · rw [hblank]
      trivial
    · exact hd.lines l (hfilter ▸ List.mem_filter.2 ⟨hl, by simpa using hblank⟩)
  -- Blank lines belong to no section, so the text has the groups for its sections.
  have hsections : sections ls = d.groups := by
    rw [← sections_filter, hfilter, sections_lines]
  have hhead : Headed ls := by
    rw [Headed, ← body_filter, hfilter, body_lines]
  have honce : Unrepeated ls := by
    refine ⟨?_, fun g hg ↦ ?_⟩
    · rw [hsections]
      exact hd.names
    · exact (hd.groups g (hsections ▸ hg)).paths
  rw [parse_of_written (hlaid.forall₂ hls) hhead fun _ ↦ honce, honce.ofLines_eq, hsections]

/-- A name with an arrow in it, a type that ends in a piece of one and a colon, and a carriage
return that is no part of an ending. -/
theorem parse_of_layout_mixed :
    let d : Schema := ⟨[⟨"a<=>b", [⟨"x.y", "t<:", "u:<"⟩, ⟨"x", "y", "x"⟩]⟩, ⟨"c", []⟩]⟩
    let text := "\u2003a<=>b\t:\r\n \n x.y:t<:<=>u:< \r\r\n x : y <=> x\nc:"
    d.WellFormed ∧ d.Layout text ∧ parse .refuse text = .ok d := by
  intro d text
  have hd : d.WellFormed := by decide
  have hnone : Gap [] := by decide
  have hspace : Gap [' '] := by decide
  have hname : Line.Spaced (Line.header "a<=>b").tokens "\u2003a<=>b\t:".toList :=
    @Line.Spaced.cons ['\u2003'] _ _ _ (by decide)
      (@Line.Spaced.cons ['\t'] _ _ _ (by decide) (.nil hnone))
  have hpiece : Line.Spaced (Line.mapping ⟨"x.y", "t<:", "u:<"⟩).tokens
      " x.y:t<:<=>u:< \r".toList :=
    .cons hspace (.cons hnone (.cons hnone (.cons hnone (.cons hnone
      (@Line.Spaced.nil [' ', '\r'] (by decide))))))
  have hplain : Line.Spaced (Line.mapping ⟨"x", "y", "x"⟩).tokens " x : y <=> x".toList :=
    .cons hspace (.cons hspace (.cons hspace (.cons hspace (.cons hspace (.nil hnone)))))
  have hblank : Line.Spaced Line.blank.tokens " ".toList := .nil hspace
  have hlast : Line.Spaced (Line.header "c").tokens "c:".toList :=
    .cons hnone (.cons hnone (.nil hnone))
  have hlaid := Line.LaidOut.crlf hname
    (.lf hblank (.crlf hpiece (.lf hplain (.last hlast (by decide)))))
  have h : d.Layout text := by
    dsimp only [text]
    exact ⟨_, by rfl, hlaid⟩
  exact ⟨hd, h, parse_of_layout d hd text h .refuse⟩

end Schema

end Reshape
