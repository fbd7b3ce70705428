import Reshape.Proofs.Conversion.Inverse
import Reshape.Proofs.Conversion.Outputs
import Reshape.Proofs.Record.Same

namespace Reshape

open DottedPath

/-- What a way there and back makes of a record, when the way there reads the given paths. -/
structure RoundTrip (there back : Record → Record) (paths : List String) (r : Record) : Prop where
  at?_eq : ∀ path ∈ paths, (back (there r)).at? (segmentsOf path) =
    some ((r.at? (segmentsOf path)).getD (.string ""))
  exists_path : ∀ q, (back (there r)).LeafAt q → ∃ path ∈ paths, segmentsOf path <+: q
  same_iff : (back (there r)).same r ↔
    (∀ path ∈ paths, (r.at? (segmentsOf path)).isSome) ∧
    ∀ q, r.LeafAt q → ∃ path ∈ paths, segmentsOf path <+: q
  there_eq : there (back (there r)) = there r

variable {there back : Record → Record} {paths : List String} {r : Record}

/-- The way back is lossless exactly on the records whose leaves all lie below paths that are read
and that have something at each of them. -/
theorem same_iff_of_at? (hr : r.KeysOnce) (hr' : (back (there r)).KeysOnce) (hnum : r.NaNFree)
    (hat : ∀ path ∈ paths, (back (there r)).at? (segmentsOf path) =
      some ((r.at? (segmentsOf path)).getD (.string "")))
    (hleaf : ∀ q, (back (there r)).LeafAt q → ∃ path ∈ paths, segmentsOf path <+: q) :
    (back (there r)).same r ↔
      (∀ path ∈ paths, (r.at? (segmentsOf path)).isSome) ∧
      ∀ q, r.LeafAt q → ∃ path ∈ paths, segmentsOf path <+: q := by
  constructor
  · intro h
    refine ⟨fun path hpath ↦ ?_, fun q hq ↦ hleaf q ((Record.leafAt_iff_of_same hr' h q).2 hq)⟩
    obtain ⟨y, hy, -⟩ := Value.at?_of_same h ((Value.at?_record _ _).trans (hat path hpath))
    rw [Value.at?_record] at hy
    simp [hy]
  · rintro ⟨hsome, hbelow⟩
    have hagree : ∀ q, (∃ path ∈ paths, segmentsOf path <+: q) →
        (back (there r)).at? q = r.at? q := by
      rintro q ⟨path, hpath, rest, rfl⟩
      obtain ⟨v, hv⟩ := Option.isSome_iff_exists.1 (hsome path hpath)
      rw [Record.at?_append, Record.at?_append, hat path hpath, hv]
      rfl
    refine Record.same_of_leaves hr' hr hnum fun q x hne hx ↦ ?_
    constructor
    · intro h
      rwa [← hagree q (hleaf q ⟨hne, x, h, hx⟩)]
    · intro h
      rwa [hagree q (hbelow q ⟨hne, x, h, hx⟩)]

namespace PathMap

variable {m m' : PathMap}

theorem roundTrip_convert (hm : m.Distinct) (hm' : m'.Distinct) (houtputs : Separate m.outputs)
    (hinputs : Separate m.inputs) (hkeys : ∀ path, path ∈ m'.outputs ↔ path ∈ m.inputs)
    (hswap : ∀ {input output}, (input, output) ∈ m' → (output, input) ∈ m)
    (hr : r.KeysOnce) (hnum : r.NaNFree) : RoundTrip m.convert m'.convert m.inputs r := by
  have hat : ∀ path ∈ m.inputs, (m'.convert (m.convert r)).at? (segmentsOf path) =
      some (valueOf r path) := by
    intro input hinput
    obtain ⟨⟨input, output⟩, hmem, rfl⟩ := List.mem_map.1 ((hkeys input).2 hinput)
    have hsep : Separate m'.outputs := hinputs.of_subset fun path ↦ (hkeys path).1
    have hmodel : (m.convert r).at? (ofText output).segments = some (valueOf r input) :=
      at?_convert_of_mem r hm houtputs (hswap hmem)
    have hback := at?_convert_of_mem (m.convert r) hm' hsep hmem
    rwa [valueOf, hmodel] at hback
  have hleaf : ∀ q, (m'.convert (m.convert r)).LeafAt q →
      ∃ path ∈ m.inputs, segmentsOf path <+: q := by
    intro q hq
    obtain ⟨path, hpath, hprefix⟩ := exists_output_of_leafAt _ hq
    exact ⟨path, (hkeys path).1 hpath, hprefix⟩
  have hkeysOnce := keysOnce_convert (keysOnce_convert hr m) m'
  refine ⟨hat, hleaf, same_iff_of_at? hr hkeysOnce hnum hat hleaf, ?_⟩
  refine convert_congr fun input hinput ↦ ?_
  have hback : (m'.convert (m.convert r)).at? (ofText input).segments = some (valueOf r input) :=
    hat input hinput
  rw [valueOf, hback]
  rfl

end PathMap

namespace Converter

open PathMap

/-- Where no two different outputs and no two different inputs lead through one another, an entity
survives the way to a model and back as far as the inputs reach; and where no input is read twice,
so does a model as far as the outputs reach. -/
theorem roundTrip_of_separate (m : PathMap) (hm : m.Distinct) (houtputs : Separate m.outputs)
    (hinputs : Separate m.inputs) :
    (∀ entity : Record, entity.KeysOnce → entity.NaNFree →
      RoundTrip (ofMap m).modelOf (ofMap m).entityOf m.inputs entity) ∧
    (m.inputsDistinct → ∀ model : Record, model.KeysOnce → model.NaNFree →
      RoundTrip (ofMap m).entityOf (ofMap m).modelOf m.outputs model) := by
  refine ⟨fun entity he hnum ↦ ?_, fun hd model hr hnum ↦ ?_⟩
  · exact roundTrip_convert hm (distinct_inverse m) houtputs hinputs
      (fun _ ↦ mem_outputs_inverse) mem_of_mem_inverse he hnum
  · have houtputs' : Separate m.inverse.outputs :=
      hinputs.of_subset fun _ ↦ mem_outputs_inverse.1
    have hinputs' : Separate m.inverse.inputs := by rwa [inputs_inverse hd]
    have h := roundTrip_convert (distinct_inverse m) hm houtputs' hinputs'
      (fun path ↦ by rw [inputs_inverse hd]) (mem_inverse_of_mem hd) hr hnum
    rwa [inputs_inverse hd] at h

/-- An entity whose `company.name` goes to two places in the model, and a model with an absent
field. -/
theorem roundTrip_of_separate_nested :
    let shared : PathMap := [("id", "id"), ("name", "company.name"), ("label", "company.name")]
    let single : PathMap := [("at.street", "company.address"), ("name", "company.name")]
    let entity : Record :=
      [("company", .record [("name", .string "Acme"), ("size", .integer 3)]), ("id", .null)]
    let model : Record := [("at", .record [("street", .record [("no", .unsigned 7)])])]
    (shared.Distinct ∧ Separate shared.outputs ∧ Separate shared.inputs ∧ entity.KeysOnce ∧
      entity.NaNFree ∧
      RoundTrip (ofMap shared).modelOf (ofMap shared).entityOf shared.inputs entity) ∧
    single.Distinct ∧ Separate single.outputs ∧ Separate single.inputs ∧ single.inputsDistinct ∧
      model.KeysOnce ∧ model.NaNFree ∧
      RoundTrip (ofMap single).entityOf (ofMap single).modelOf single.outputs model := by
  intro shared single entity model
  have hs : shared.Distinct ∧ Separate shared.outputs ∧ Separate shared.inputs := by decide
  have he : entity.KeysOnce ∧ entity.NaNFree := by decide
  have hu : single.Distinct ∧ Separate single.outputs ∧ Separate single.inputs ∧
      single.inputsDistinct := by decide
  have hr : model.KeysOnce ∧ model.NaNFree := by decide
  exact ⟨⟨hs.1, hs.2.1, hs.2.2, he.1, he.2,
      (roundTrip_of_separate shared hs.1 hs.2.1 hs.2.2).1 entity he.1 he.2⟩,
    hu.1, hu.2.1, hu.2.2.1, hu.2.2.2, hr.1, hr.2,
    (roundTrip_of_separate single hu.1 hu.2.1 hu.2.2.1).2 hu.2.2.2 model hr.1 hr.2⟩

end Converter

end Reshape
