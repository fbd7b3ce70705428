import Reshape.Proofs.Generation.Interface
import Reshape.Proofs.TypeScript.Fragments

namespace Reshape

open DottedPath Schema TypeScript MapperModule

namespace FieldGroup

variable (g : FieldGroup)

/-- The texts that are keys in a file. Interfaces nest, so that their keys are segments of paths. -/
def keysIn : FileKind → List String
  | .model => g.mappings.flatMap (segmentsOf ·.modelPath)
  | .entity => g.mappings.flatMap (segmentsOf ·.entityPath)
  | .mapper => g.mappings.map (·.modelPath)

def valuesIn : FileKind → List String
  | .mapper => g.mappings.map (·.entityPath)
  | _ => []

def quotedIn (kind : FileKind) : List String :=
  g.valuesIn kind ++ (g.keysIn kind).filter (!isIdentifier ·.toList)

end FieldGroup

namespace Project

variable (p : Project) (g : FieldGroup)

def fragments : FileKind → List (List Fragment)
  | .model =>
    interfaceFragments (Words.pascal g.name ++ Words.pascal p.options.modelSuffix) g.modelSide
  | .entity =>
    interfaceFragments (Words.pascal g.name ++ Words.pascal p.options.entitySuffix) g.entitySide
  | .mapper => (p.mapperOf g).fragments g.pairs

theorem contentsOf_eq_unlines (kind : FileKind) : (p.filesOf g).contentsOf kind =
    [unlines ((p.fragments g kind).map lineOf)] := by
  cases kind with
  | model => rw [contentsOf_model, modelInterface, interfaceText_eq_unlines, fragments]
  | entity => rw [contentsOf_entity, entityInterface, interfaceText_eq_unlines, fragments]
  | mapper => rw [contentsOf_mapper, render_eq_unlines, fragments]

variable {p g} {kind : FileKind} {s : String}

theorem key_mem_fragments : .key s ∈ (p.fragments g kind).flatten ↔ s ∈ g.keysIn kind := by
  cases kind with
  | model =>
    rw [fragments, key_mem_interfaceFragments]
    simp [FieldGroup.modelSide, FieldGroup.keysIn]
  | entity =>
    rw [fragments, key_mem_interfaceFragments]
    simp [FieldGroup.entitySide, FieldGroup.keysIn]
  | mapper =>
    rw [fragments, MapperModule.key_mem_fragments]
    simp [FieldGroup.pairs, FieldGroup.keysIn]

theorem quoted_mem_fragments : .quoted s ∈ (p.fragments g kind).flatten ↔ s ∈ g.valuesIn kind := by
  cases kind with
  | model => exact iff_of_false (quoted_not_mem_interfaceFragments s) List.not_mem_nil
  | entity => exact iff_of_false (quoted_not_mem_interfaceFragments s) List.not_mem_nil
  | mapper =>
    rw [fragments, MapperModule.quoted_mem_fragments]
    simp [FieldGroup.pairs, FieldGroup.valuesIn]

/-- Of what a schema brings into a file, its values and those keys stand in quotes that are no
identifiers. -/
theorem exists_quotes_iff :
    (∃ f ∈ (p.fragments g kind).flatten, f.quotes? = some s) ↔ s ∈ g.quotedIn kind := by
  rw [FieldGroup.quotedIn, List.mem_append, List.mem_filter,
    ← quoted_mem_fragments (p := p), ← key_mem_fragments (p := p)]
  constructor
  · rintro ⟨f, hf, hquotes⟩
    cases f with
    | plain _ => cases hquotes
    | key name =>
      obtain ⟨hname, rfl⟩ : isIdentifier name.toList = false ∧ name = s := by
        simpa [Fragment.quotes?] using hquotes
      exact .inr ⟨hf, by simp [hname]⟩
    | quoted text =>
      obtain rfl := Option.some.inj hquotes
      exact .inl hf
  · rintro (hf | ⟨hf, hname⟩)
    · exact ⟨_, hf, rfl⟩
    · exact ⟨_, hf, if_neg (by simpa using hname)⟩

end Project

/-- All that a file quotes is a path or a segment of one. -/
theorem FieldGroup.not_mem_of_mem_quotedIn {g : FieldGroup} {kind : FileKind} {s : String}
    {c : Char} (hc : ∀ pair ∈ g.pairs, c ∉ pair.1.toList ∧ c ∉ pair.2.toList)
    (h : s ∈ g.quotedIn kind) : c ∉ s.toList := by
  have hpaths : ∀ f ∈ g.mappings, c ∉ f.modelPath.toList ∧ c ∉ f.entityPath.toList :=
    fun f hf ↦ hc _ (List.mem_map_of_mem hf)
  rw [quotedIn, List.mem_append, List.mem_filter] at h
  cases kind with
  | model =>
    obtain ⟨f, hf, hs⟩ : ∃ f ∈ g.mappings, s ∈ segmentsOf f.modelPath := by
      simpa [keysIn, valuesIn] using (h.resolve_left List.not_mem_nil).1
    exact fun hmem ↦ (hpaths f hf).1 (subset_of_mem_segmentsOf hs hmem)
  | entity =>
    obtain ⟨f, hf, hs⟩ : ∃ f ∈ g.mappings, s ∈ segmentsOf f.entityPath := by
      simpa [keysIn, valuesIn] using (h.resolve_left List.not_mem_nil).1
    exact fun hmem ↦ (hpaths f hf).2 (subset_of_mem_segmentsOf hs hmem)
  | mapper =>
    rcases h with h | ⟨h, -⟩
    · obtain ⟨f, hf, rfl⟩ := List.mem_map.1 h
      exact (hpaths f hf).2
    · obtain ⟨f, hf, rfl⟩ := List.mem_map.1 h
      exact (hpaths f hf).1

theorem lineFeed_not_mem_of_parse {repeats : Repeats} {text : String} {d : Schema}
    {g : FieldGroup} (h : parse repeats text = .ok d) (hg : g ∈ d.groups) :
    ∀ pair ∈ g.pairs, '\n' ∉ pair.1.toList ∧ '\n' ∉ pair.2.toList := by
  intro pair hpair
  obtain ⟨f, hf, rfl⟩ := List.mem_map.1 hpair
  have hwell := ((schemaWellFormed_of_parse h).groups g hg).mappings f hf
  exact ⟨hwell.path_oneLine, hwell.target_oneLine⟩

namespace Project

/-- The string literals that a schema brings into a file are those of its keys that are no
identifiers and of its values. No quote or line feed ends one too early, and each that is closed on
its line stands for its text. Escaping misses the carriage returns that the reader of schemas leaves
in a line, so the literals are closed for sure if every return there ends a line. -/
theorem literals_of_parse (repeats : Repeats) (text : String) (d : Schema)
    (h : parse repeats text = .ok d) (p : Project) (g : FieldGroup) (hg : g ∈ d.groups)
    (kind : FileKind) :
    (p.filesOf g).contentsOf kind = [unlines ((p.fragments g kind).map lineOf)] ∧
    (∀ s, (∃ f ∈ (p.fragments g kind).flatten, f.quotes? = some s) ↔ s ∈ g.quotedIn kind) ∧
    (∀ f ∈ (p.fragments g kind).flatten, ∀ s, f.quotes? = some s →
      InQuotes f.text ∧ (ClosedLiteral f.text s ↔ '\r' ∉ s.toList)) ∧
    (Text.ReturnsEndLines text.toList → ∀ f ∈ (p.fragments g kind).flatten, ∀ s,
      f.quotes? = some s → ClosedLiteral f.text s) := by
  have hfeed {s : String} (hs : s ∈ g.quotedIn kind) : '\n' ∉ s.toList :=
    FieldGroup.not_mem_of_mem_quotedIn (lineFeed_not_mem_of_parse h hg) hs
  refine ⟨p.contentsOf_eq_unlines g kind, fun s ↦ exists_quotes_iff, fun f hf s hquotes ↦ ?_,
    fun hreturn f hf s hquotes ↦ ?_⟩
  · have hs : s ∈ g.quotedIn kind := exists_quotes_iff.1 ⟨f, hf, hquotes⟩
    rw [Fragment.text_of_quotes? hquotes]
    refine ⟨inQuotes_literal (hfeed hs), ?_⟩
    rw [closedLiteral_literal_iff, OneLine, and_iff_right (hfeed hs)]
  · have hs : s ∈ g.quotedIn kind := exists_quotes_iff.1 ⟨f, hf, hquotes⟩
    have hnoReturn : '\r' ∉ s.toList := FieldGroup.not_mem_of_mem_quotedIn
      (fun pair hpair ↦ ⟨(oneLine_of_parse h hg hreturn pair hpair).1.2,
        (oneLine_of_parse h hg hreturn pair hpair).2.2⟩) hs
    rw [Fragment.text_of_quotes? hquotes, closedLiteral_literal_iff]
    exact ⟨hfeed hs, hnoReturn⟩

/-- Quotes and backslashes next to one another, a key with dots, a separator of lines and a
character of two units. -/
theorem literals_of_parse_escaped :
    let text := "a:\r\n it's.\\.b_1: t <=> '\\\u2028😀\\'\n b: u\r\n"
    let g : FieldGroup := ⟨"a", [⟨"it's.\\.b_1", "t", "'\\\u2028😀\\'"⟩, ⟨"b", "u", "b"⟩]⟩
    let p : Project := ⟨⟨"."⟩, { runtime := "r'\n" }⟩
    parse .refuse text = .ok ⟨[g]⟩ ∧ Text.ReturnsEndLines text.toList ∧
      g.quotedIn .model = ["it's", "\\"] ∧
      g.quotedIn .mapper = ["'\\\u2028😀\\'", "b", "it's.\\.b_1"] ∧
      ∀ kind, ∀ f ∈ (p.fragments g kind).flatten, ∀ s, f.quotes? = some s →
        ClosedLiteral f.text s := by
  intro text g p
  have hparse : parse .refuse text = .ok ⟨[g]⟩ := by
    dsimp only [text, g]
    rfl
  have hreturn : Text.ReturnsEndLines text.toList := by decide +kernel
  refine ⟨hparse, hreturn, by decide +kernel, by decide +kernel, fun kind ↦ ?_⟩
  obtain ⟨-, -, -, hclosed⟩ :=
    literals_of_parse .refuse text ⟨[g]⟩ hparse p g List.mem_cons_self kind
  exact hclosed hreturn

/-- A carriage return inside a key is no end of a line when a schema is read, but one in what is
generated, where the literal cannot be read any more. -/
theorem literal_broken_by_return :
    let text := "a:\n  x\ry: t\n"
    let g : FieldGroup := ⟨"a", [⟨"x\ry", "t", "x\ry"⟩]⟩
    let p : Project := ⟨⟨"."⟩, {}⟩
    parse .replace text = .ok ⟨[g]⟩ ∧
      (p.filesOf g).contentsOf .model = ["export interface AModel \x7b\n  'x\ry': t\n\x7d\n"] ∧
      ∃ f ∈ (p.fragments g .model).flatten, f.quotes? = some "x\ry" ∧ '\r' ∈ f.text.toList ∧
        ∀ rest, readString (f.text.toList.tail ++ rest) = none := by
  intro text g p
  have hparse : parse .replace text = .ok ⟨[g]⟩ := by
    dsimp only [text, g]
    rfl
  have hmem : .key "x\ry" ∈ (p.fragments g .model).flatten :=
    key_mem_fragments.2 (by decide +kernel)
  have htext : Fragment.text (.key "x\ry") = literal "x\ry" := by decide +kernel
  refine ⟨hparse, by decide +kernel, _, hmem, by decide +kernel, by decide +kernel, fun rest ↦ ?_⟩
  rw [htext]
  exact (readString_literal "x\ry" rest).trans (if_neg (by decide))

end Project

end Reshape
