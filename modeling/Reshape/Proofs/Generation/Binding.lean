import Reshape.Conversion.PathMap
import Reshape.Generation.Plan
import Reshape.Proofs.Latest
import Reshape.Proofs.Schema.Origin
import Reshape.Proofs.TypeScript.MapperModule
import Reshape.Proofs.Words

namespace Reshape

open Schema TypeScript MapperModule

def GroupFiles.contentsOf (files : GroupFiles) (kind : FileKind) : List String :=
  (files.files.filter (·.kind = kind)).map (·.contents)

def Project.mapperOf (p : Project) (g : FieldGroup) : MapperModule :=
  let typeName := Words.pascal g.name
  let stem := Words.kebab typeName
  { name := typeName ++ "Mapper"
    model := ⟨typeName ++ Words.pascal p.options.modelSuffix,
      "./" ++ stem ++ p.options.modelSuffix⟩
    entity := ⟨typeName ++ Words.pascal p.options.entitySuffix,
      "./" ++ stem ++ p.options.entitySuffix⟩
    runtime := p.options.runtime }

theorem Project.contentsOf_mapper (p : Project) (g : FieldGroup) :
    (p.filesOf g).contentsOf .mapper = [(p.mapperOf g).render g.pairs] := by
  simp [GroupFiles.contentsOf, filesOf, mapperOf]

variable {repeats : Repeats} {text : String} {d : Schema} {g : FieldGroup}

theorem PathMap.ofGroup_of_parse (h : parse repeats text = .ok d) (hg : g ∈ d.groups) :
    PathMap.ofGroup g = g.pairs := by
  have hpaths := ((schemaWellFormed_of_parse h).groups g hg).paths
  refine Keyed.ofList_of_distinct ?_
  simpa [Keyed.Distinct, Keyed.keys, FieldGroup.pairs, Function.comp_def] using hpaths

theorem oneLine_of_parse (h : parse repeats text = .ok d) (hg : g ∈ d.groups)
    (hreturn : Text.ReturnsEndLines text.toList) :
    ∀ pair ∈ g.pairs, OneLine pair.1 ∧ OneLine pair.2 := by
  intro pair hpair
  obtain ⟨f, hf, rfl⟩ := List.mem_map.1 hpair
  obtain ⟨raw, hraw, hwritten⟩ := exists_line_of_parse h hg hf
  obtain ⟨hmodel, hentity⟩ := hwritten.paths_subset
  have hfeed := Text.lineFeed_not_mem_of_mem_lines hraw
  have hnoReturn := Text.carriageReturn_not_mem_of_mem_lines hreturn hraw
  exact ⟨⟨fun hc ↦ hfeed (hmodel hc), fun hc ↦ hnoReturn (hmodel hc)⟩,
    fun hc ↦ hfeed (hentity hc), fun hc ↦ hnoReturn (hentity hc)⟩

namespace Project

theorem lineFeed_not_mem_type (group suffix : String) :
    '\n' ∉ (Words.pascal group ++ Words.pascal suffix).toList := by
  rw [String.toList_append, List.mem_append, not_or]
  exact ⟨Words.lineFeed_not_mem_pascal _, Words.lineFeed_not_mem_pascal _⟩

/-- The map in a generated mapper, read from the text of the module, is the map that conversions
use, and this holds every pair of the group in its place. A path with a carriage return of its own
would break a literal. -/
theorem readMap_mapper_of_parse (repeats : Repeats) (text : String) (d : Schema)
    (h : parse repeats text = .ok d) (hreturn : Text.ReturnsEndLines text.toList) (p : Project)
    (g : FieldGroup) (hg : g ∈ d.groups) :
    ((p.filesOf g).contentsOf .mapper).map readMap = [some (PathMap.ofGroup g)] ∧
      PathMap.ofGroup g = g.pairs := by
  have hpairs : PathMap.ofGroup g = g.pairs := PathMap.ofGroup_of_parse h hg
  have hname : '\n' ∉ (Words.pascal g.name ++ "Mapper").toList := by
    rw [String.toList_append, List.mem_append, not_or]
    exact ⟨Words.lineFeed_not_mem_pascal _, by decide⟩
  have hread : readMap ((p.mapperOf g).render g.pairs) = some g.pairs :=
    readMap_render hname (lineFeed_not_mem_type _ _) (lineFeed_not_mem_type _ _)
      (oneLine_of_parse h hg hreturn)
  refine ⟨?_, hpairs⟩
  rw [contentsOf_mapper, hpairs, List.map_singleton, hread]

/-- Keys that are bare, dotted or hold quotes and braces, and a runtime that imitates the map. -/
theorem readMap_mapper_of_parse_quoted :
    let text := "a:\r\n _id$ : t\n it's, \\: u <=> \x7b'a.b'\x7d\r\n" ++
      " x.y: v <=> \\'\nb:\n x: t\n x: u <=> y"
    let g : FieldGroup := ⟨"a", [⟨"_id$", "t", "_id$"⟩, ⟨"it's, \\", "u", "\x7b'a.b'\x7d"⟩,
      ⟨"x.y", "v", "\\'"⟩]⟩
    let d : Schema := ⟨[g, ⟨"b", [⟨"x", "u", "y"⟩]⟩]⟩
    let p : Project := ⟨⟨"."⟩, { runtime := "r'\nconst transformationMap: \n  a: 'b',\n\x7d" }⟩
    parse .replace text = .ok d ∧ Text.ReturnsEndLines text.toList ∧ g ∈ d.groups ∧
      ((p.filesOf g).contentsOf .mapper).map readMap =
        [some [("_id$", "_id$"), ("it's, \\", "\x7b'a.b'\x7d"), ("x.y", "\\'")]] := by
  intro text g d p
  have hparse : parse .replace text = .ok d := by
    dsimp only [text, d, g]
    rfl
  have hreturn : Text.ReturnsEndLines text.toList := by decide +kernel
  have hg : g ∈ d.groups := List.mem_cons_self
  obtain ⟨hread, hpairs⟩ := readMap_mapper_of_parse .replace text d hparse hreturn p g hg
  exact ⟨hparse, hreturn, hg, by rw [hread, hpairs]; rfl⟩

end Project

end Reshape
