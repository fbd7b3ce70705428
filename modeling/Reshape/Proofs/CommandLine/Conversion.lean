import Mathlib.Data.List.Forall2
import Reshape.Proofs.CommandLine.Reading
import Reshape.Proofs.Json.Printer
import Reshape.Proofs.Schema.Origin

namespace Reshape

open DiskStore

section

variable {ε α β : Type} {f : α → Except ε β} {as : List α} {bs : List β}

theorem bind_eq_ok_iff {x : Except ε α} {b : β} :
    x >>= f = .ok b ↔ ∃ a, x = .ok a ∧ f a = .ok b := by
  cases x <;> simp [bind, Except.bind]

theorem mapM_cons_eq_ok_iff {a : α} : (a :: as).mapM f = .ok bs ↔
    ∃ b rest, f a = .ok b ∧ as.mapM f = .ok rest ∧ bs = b :: rest := by
  simp [List.mapM_cons, bind_eq_ok_iff, pure, Except.pure, eq_comm (a := bs)]

/-- What is done for each of many items goes through if it does for every single one. -/
theorem exists_mapM_eq_ok_iff : (∃ bs, as.mapM f = .ok bs) ↔ ∀ a ∈ as, ∃ b, f a = .ok b := by
  induction as with
  | nil => simp [pure, Except.pure]
  | cons a as ih =>
    rw [List.forall_mem_cons, ← ih]
    simp only [mapM_cons_eq_ok_iff]
    constructor
    · rintro ⟨_, b, rest, hb, hrest, -⟩
      exact ⟨⟨b, hb⟩, rest, hrest⟩
    · rintro ⟨⟨b, hb⟩, rest, hrest⟩
      exact ⟨_, b, rest, hb, hrest, rfl⟩

theorem forall_of_mapM_eq_ok {p : β → Prop} (hf : ∀ a b, f a = .ok b → p b)
    (h : as.mapM f = .ok bs) : ∀ b ∈ bs, p b := by
  induction as generalizing bs with
  | nil =>
    cases h
    exact fun _ hb ↦ nomatch hb
  | cons a as ih =>
    obtain ⟨b, rest, hb, hrest, rfl⟩ := mapM_cons_eq_ok_iff.1 h
    exact List.forall_mem_cons.2 ⟨hf a b hb, ih hrest⟩

theorem forall₂_of_mapM_eq_ok (h : as.mapM f = .ok bs) :
    List.Forall₂ (fun a b ↦ f a = .ok b) as bs := by
  induction as generalizing bs with
  | nil =>
    cases h
    exact .nil
  | cons a as ih =>
    obtain ⟨b, rest, hb, hrest, rfl⟩ := mapM_cons_eq_ok_iff.1 h
    exact .cons hb (ih hrest)

end

/-- JSON that is converted as a whole: a record without arrays in it, or an array of those. -/
def Json.Convertible : Json → Prop
  | .array items => ∀ v ∈ items, v.isObject ∧ v.ArrayFree
  | v => v.isObject ∧ v.ArrayFree

namespace Converter

def converted (c : Converter) : Shape → Record → Record
  | .model => c.modelOf
  | .entity => c.entityOf

def convertedJson (c : Converter) (shape : Shape) (v : Json) : Except RecordError Json :=
  (Record.ofJson v).map fun r ↦ (c.converted shape r).toJson

variable {c : Converter} {shape : Shape} {v out : Json}

theorem convertedJson_eq_ok_iff : c.convertedJson shape v = .ok out ↔
    ∃ r, Record.ofJson v = .ok r ∧ (c.converted shape r).toJson = out := by
  unfold convertedJson
  cases Record.ofJson v <;> simp [Except.map]

theorem proper_of_convertedJson (h : c.convertedJson shape v = .ok out) : out.Proper := by
  obtain ⟨r, -, rfl⟩ := convertedJson_eq_ok_iff.1 h
  exact (c.converted shape r).proper_toJson

theorem exists_convertedJson_iff :
    (∃ out, c.convertedJson shape v = .ok out) ↔ v.isObject ∧ v.ArrayFree := by
  rw [← Record.exists_ofJson_iff]
  simp only [convertedJson_eq_ok_iff]
  exact ⟨fun ⟨_, r, hr, _⟩ ↦ ⟨r, hr⟩, fun ⟨r, hr⟩ ↦ ⟨_, r, hr, rfl⟩⟩

end Converter

theorem Schema.exists_group?_iff {d : Schema} {name : String} :
    (∃ g, d.group? name = some g) ↔ name ∈ d.names := by
  simp [group?, names, ← Option.isSome_iff_exists]

theorem FileTree.occupied_of_readText {t : FileTree} {p : DiskPath} {text : String}
    (h : t.readText p = .ok text) : t.occupied p := by
  unfold readText at h
  unfold occupied
  cases hplace : t.locate p with
  | error e => simp [hplace] at h
  | ok place => cases hnode : t.node? place <;> simp [hplace, hnode] at h ⊢

namespace Invocation

section

variable {c : Converter} {shape : Shape} {v : Json} {items : List Json}

theorem convertJson_of_not_isArray (h : v.isArray = false) :
    convertJson c shape v = c.convertedJson shape v := by
  cases v with
  | array items => cases h
  | _ => cases shape <;> rfl

theorem convertJson_of_record {r : Record} (h : Record.ofJson v = .ok r) :
    convertJson c shape v = .ok (c.converted shape r).toJson := by
  have hobject : v.isObject := (Record.exists_ofJson_iff.1 ⟨r, h⟩).1
  have harray : v.isArray = false := by
    cases v with
    | array items => cases hobject
    | _ => rfl
  rw [convertJson_of_not_isArray harray]
  exact Converter.convertedJson_eq_ok_iff.2 ⟨r, h, rfl⟩

/-- An array is converted element by element, although all records are read before any is
converted. -/
theorem convertJson_array (c : Converter) (shape : Shape) (items : List Json) :
    convertJson c shape (.array items) = (items.mapM (c.convertedJson shape)).map .array := by
  have hread (items : List Json) : items.mapM (c.convertedJson shape) =
      (items.mapM Record.ofJson).map (·.map fun r ↦ (c.converted shape r).toJson) := by
    induction items with
    | nil => rfl
    | cons v items ih =>
      rw [List.mapM_cons, List.mapM_cons, ih, Converter.convertedJson]
      cases Record.ofJson v with
      | error e => rfl
      | ok r => cases items.mapM Record.ofJson <;> rfl
  rw [hread]
  cases hrecords : items.mapM Record.ofJson with
  | error e => simp [convertJson, hrecords, bind, Except.bind, Except.map]
  | ok records =>
    cases shape <;> simp [convertJson, hrecords, bind, Except.bind, pure, Except.pure, Except.map,
      PathMap.convertAll, Converter.converted, Converter.modelOf, Converter.entityOf,
      Function.comp_def]

theorem exists_convertJson_array (h : (Json.array items).Convertible) :
    ∃ outs, convertJson c shape (.array items) = .ok (.array outs) ∧
      List.Forall₂ (fun item out ↦ c.convertedJson shape item = .ok out) items outs := by
  obtain ⟨outs, houts⟩ : ∃ outs, items.mapM (c.convertedJson shape) = .ok outs :=
    exists_mapM_eq_ok_iff.2 fun v hv ↦ Converter.exists_convertedJson_iff.2 (h v hv)
  refine ⟨outs, ?_, forall₂_of_mapM_eq_ok houts⟩
  rw [convertJson_array, houts]
  rfl

/-- What is printed of a conversion is always proper JSON. -/
theorem proper_of_convertJson {out : Json} (h : convertJson c shape v = .ok out) : out.Proper := by
  cases v with
  | array items =>
    rw [convertJson_array] at h
    cases houts : items.mapM (c.convertedJson shape) with
    | error e => simp [houts, Except.map] at h
    | ok outs =>
      obtain rfl : .array outs = out := by simpa [houts, Except.map] using h
      exact Json.everywhere_array.2
        ⟨rfl, forall_of_mapM_eq_ok (fun _ _ ↦ Converter.proper_of_convertedJson) houts⟩
  | _ =>
    rw [convertJson_of_not_isArray rfl] at h
    exact Converter.proper_of_convertedJson h

theorem exists_convertJson_iff : (∃ out, convertJson c shape v = .ok out) ↔ v.Convertible := by
  cases v with
  | array items =>
    have hitems : (∃ outs, items.mapM (c.convertedJson shape) = .ok outs) ↔
        ∀ v ∈ items, v.isObject ∧ v.ArrayFree := by
      simp only [exists_mapM_eq_ok_iff, Converter.exists_convertedJson_iff]
    rw [convertJson_array, Json.Convertible, ← hitems]
    cases items.mapM (c.convertedJson shape) <;> simp [Except.map]
  | _ =>
    rw [convertJson_of_not_isArray rfl]
    exact Converter.exists_convertedJson_iff

end

/-- A tree and a standard input that hold a schema and a text where a conversion looks for them. -/
structure Supplied (i : Invocation) (input : DiskPath) (t : FileTree)
    (stdin : Except DiskError String) (schema text : String) : Prop where
  schema : t.readText (Schema.path i.root) = .ok schema
  input : (if input.same ⟨"-"⟩ then stdin else t.readText input) = .ok text

def conversion (i : Invocation) (input : DiskPath) (group : String) (shape : Shape)
    (schema text : String) : Except CommandError String :=
  match Schema.parse i.repeats schema with
  | .error e => .error (.schema (Schema.path i.root) (.unreadable e))
  | .ok d =>
    match d.group? group with
    | none => .error (.unknownGroup group d.names)
    | some g =>
      match Json.ofText? text with
      | .error f => .error (.json input f)
      | .ok v =>
        match convertJson (.ofGroup g) shape v with
        | .error e => .error (.record e)
        | .ok out => .ok (out.pretty ++ "\n")

variable {i : Invocation} {t : FileTree} {stdin : Except DiskError String}
  {schema text group : String} {input : DiskPath} {shape : Shape}

theorem run_schema (h : t.readText (Schema.path i.root) = .ok schema) :
    t.run i.schema = ((Schema.parse i.repeats schema).mapError fun e ↦
      .schema (Schema.path i.root) (.unreadable e), t) := by
  have htaken : t.occupied (Schema.path i.root) := FileTree.occupied_of_readText h
  have hread : (readText (Schema.path i.root) : StateM FileTree _) t = (.ok schema, t) :=
    congrArg (·, t) h
  rw [Invocation.schema, FileTree.run_adapt, Schema.ofProject, Schema.readFrom,
    FileTree.run_bind, FileTree.run_isTaken]
  simp only [htaken, Bool.not_true, Bool.false_eq_true, if_false]
  rw [FileTree.run_bind, FileTree.run_orFail, hread]
  dsimp only [Except.mapError]
  cases Schema.parse i.repeats schema <;> rfl

theorem run_readInput (h : (if input.same ⟨"-"⟩ then stdin else t.readText input) = .ok text) :
    t.run (readInput (pure stdin) input) = (.ok text, t) := by
  unfold readInput
  by_cases hinput : input.same ⟨"-"⟩
  · rw [if_pos hinput] at h
    rw [if_pos hinput, FileTree.run_orFail, h]
    rfl
  · rw [if_neg hinput] at h
    have hread : (readText input : StateM FileTree _) t = (.ok text, t) := congrArg (·, t) h
    rw [if_neg hinput, FileTree.run_orFail, hread]
    rfl

theorem run_convert (h : i.Supplied input t stdin schema text) (group : String) (shape : Shape) :
    t.run (i.convert (pure stdin) input group shape) =
      (i.conversion input group shape schema text, t) := by
  rw [convert, FileTree.run_bind, run_schema h.schema, conversion]
  cases Schema.parse i.repeats schema with
  | error e => rfl
  | ok d =>
    dsimp only [Except.mapError]
    cases d.group? group with
    | none => rfl
    | some g =>
      dsimp only
      rw [FileTree.run_bind, run_readInput h.input]
      dsimp only
      cases Json.ofText? text with
      | error f => rfl
      | ok v =>
        dsimp only
        cases convertJson (.ofGroup g) shape v <;> rfl

theorem conversion_eq_ok_iff {output : String} :
    i.conversion input group shape schema text = .ok output ↔
      ∃ d g v out, Schema.parse i.repeats schema = .ok d ∧ d.group? group = some g ∧
        Json.ofText? text = .ok v ∧ convertJson (.ofGroup g) shape v = .ok out ∧
        out.pretty ++ "\n" = output := by
  unfold conversion
  constructor
  · intro h
    split at h
    · cases h
    · split at h
      · cases h
      · split at h
        · cases h
        · split at h
          · cases h
          · exact ⟨_, _, _, _, ‹_›, ‹_›, ‹_›, ‹_›, Except.ok.inj h⟩
  · rintro ⟨d, g, v, out, hparse, hgroup, hread, hconvert, rfl⟩
    simp only [hparse, hgroup, hread, hconvert]

theorem exists_conversion_iff :
    (∃ output, i.conversion input group shape schema text = .ok output) ↔
      ∃ d v, Schema.parse i.repeats schema = .ok d ∧ group ∈ d.names ∧
        Json.ofText? text = .ok v ∧ v.Convertible := by
  simp only [conversion_eq_ok_iff, ← Schema.exists_group?_iff]
  constructor
  · rintro ⟨output, d, g, v, out, hparse, hgroup, hread, hconvert, -⟩
    exact ⟨d, v, hparse, ⟨g, hgroup⟩, hread, exists_convertJson_iff.1 ⟨out, hconvert⟩⟩
  · rintro ⟨d, v, hparse, ⟨g, hgroup⟩, hread, hv⟩
    obtain ⟨out, hconvert⟩ := exists_convertJson_iff.2 hv
    exact ⟨_, d, g, v, out, hparse, hgroup, hread, hconvert, rfl⟩

theorem execute_eq_convert (hcommand : i.command = .convert input group shape)
    (stdin : StateM FileTree (Except DiskError String)) :
    i.execute stdin = i.convert stdin input group shape := by
  unfold execute
  rw [hcommand]

end Invocation

namespace Outcome

def printing (v : Json) : Outcome := ⟨0, v.pretty ++ "\n", ""⟩

/-- A run prints a value by a text that is its own and stands for this value alone. -/
structure Shows (o : Outcome) (v : Json) : Prop where
  printing : o = .printing v
  meaning : Json.meaning? o.output = some v

theorem shows_printing {v : Json} (h : v.Proper) : (printing v).Shows v :=
  ⟨rfl, Json.meaning?_pretty h⟩

def ofResult (w : Wording) : Except CommandError String → Outcome
  | .ok output => ⟨0, output, ""⟩
  | .error e => ⟨1, "", (e.chain w).render⟩

variable {w : Wording} {result : Except CommandError String}

theorem code_ofResult_eq_zero_iff :
    (ofResult w result).code = 0 ↔ ∃ output, result = .ok output := by
  cases result <;> simp [ofResult]

theorem ofResult_of_code_ne_zero (h : (ofResult w result).code ≠ 0) :
    (ofResult w result).code = 1 ∧ (ofResult w result).output = "" := by
  cases result with
  | ok output => exact absurd rfl h
  | error e => exact ⟨rfl, rfl⟩

end Outcome

section

variable {w : Wording} {args : List String} {i : Invocation} {t : FileTree}
  {stdin : Except DiskError String} {schema text group : String} {input : DiskPath} {shape : Shape}

theorem runProgram_of_parse (hparse : Invocation.parse args = .ok i)
    (stdin : StateM FileTree (Except DiskError String)) :
    (runProgram w args stdin : StateM FileTree Outcome) t =
      (.ofResult w (t.run (i.execute stdin)).1, (t.run (i.execute stdin)).2) := by
  unfold runProgram
  rw [hparse]
  rcases hrun : t.run (i.execute stdin) with ⟨result, t'⟩
  have hexecute : (i.execute stdin).run t = (result, t') := hrun
  cases result <;> simp only [bind, StateT.bind, hexecute] <;> rfl

/-- A conversion depends on nothing but the texts of its schema and its input. -/
theorem runProgram_of_supplied (hparse : Invocation.parse args = .ok i)
    (hcommand : i.command = .convert input group shape)
    (h : i.Supplied input t stdin schema text) :
    (runProgram w args (pure stdin) : StateM FileTree Outcome) t =
      (.ofResult w (i.conversion input group shape schema text), t) := by
  rw [runProgram_of_parse hparse, Invocation.execute_eq_convert hcommand, Invocation.run_convert h]

theorem runProgram_of_convertJson (hparse : Invocation.parse args = .ok i)
    (hcommand : i.command = .convert input group shape)
    (h : i.Supplied input t stdin schema text) {d : Schema} {g : FieldGroup} {v out : Json}
    (hschema : Schema.parse i.repeats schema = .ok d) (hgroup : d.group? group = some g)
    (hread : Json.ofText? text = .ok v)
    (hconvert : Invocation.convertJson (.ofGroup g) shape v = .ok out) :
    (runProgram w args (pure stdin) : StateM FileTree Outcome) t = (.printing out, t) := by
  have hresult : i.conversion input group shape schema text = .ok (out.pretty ++ "\n") :=
    Invocation.conversion_eq_ok_iff.2 ⟨d, g, v, out, hschema, hgroup, hread, hconvert, rfl⟩
  rw [runProgram_of_supplied hparse hcommand h, hresult]
  rfl

end

/-- A conversion on readable files succeeds exactly if the schema can be parsed and has the group,
and the input is a record or an array of records, none of which holds an array. It prints a text
that is read back as what becomes of the record, and of an array as what it would print for each
of the elements alone. Otherwise it prints nothing, and in no case does it touch a file. -/
theorem runProgram_convert (w : Wording) (args : List String) (i : Invocation)
    (hparse : Invocation.parse args = .ok i) (input : DiskPath) (group : String) (shape : Shape)
    (hcommand : i.command = .convert input group shape) (t : FileTree)
    (stdin : Except DiskError String) :
    let run (stdin : Except DiskError String) : StateM FileTree Outcome :=
      runProgram w args (pure stdin)
    let outcome := (run stdin t).1
    (run stdin t).2 = t ∧ (outcome.code ≠ 0 → outcome.code = 1 ∧ outcome.output = "") ∧
    ∀ schema text, i.Supplied input t stdin schema text →
      (outcome.code = 0 ↔ ∃ d v, Schema.parse i.repeats schema = .ok d ∧ group ∈ d.names ∧
        Json.ofText? text = .ok v ∧ v.Convertible) ∧
      ∀ d g v, Schema.parse i.repeats schema = .ok d → g ∈ d.groups → g.name = group →
        Json.ofText? text = .ok v →
        (∀ r, Record.ofJson v = .ok r →
          outcome.Shows ((Converter.ofGroup g).converted shape r).toJson) ∧
        ∀ items, v = .array items → v.Convertible →
          ∃ outs, outcome.Shows (.array outs) ∧
            List.Forall₂ (fun item out ↦
              (∃ r, Record.ofJson item = .ok r ∧
                ((Converter.ofGroup g).converted shape r).toJson = out) ∧
              ∀ t' stdin' text', i.Supplied input t' stdin' schema text' →
                Json.ofText? text' = .ok item →
                  (run stdin' t').1.Shows out ∧ (run stdin' t').2 = t')
              items outs := by
  intro run outcome
  have hrun : run stdin t = (.ofResult w (t.run (i.convert (pure stdin) input group shape)).1,
      (t.run (i.convert (pure stdin) input group shape)).2) := by
    rw [← Invocation.execute_eq_convert hcommand]
    exact runProgram_of_parse hparse (pure stdin)
  have houtcome : outcome = .ofResult w (t.run (i.convert (pure stdin) input group shape)).1 :=
    congrArg Prod.fst hrun
  have hstill : (run stdin t).2 = t := by
    rw [hrun]
    exact Invocation.still_convert i (fun _ ↦ rfl) input group shape t
  refine ⟨hstill, fun hcode ↦ ?_, fun schema text hsupplied ↦ ?_⟩
  · rw [houtcome] at hcode ⊢
    exact Outcome.ofResult_of_code_ne_zero hcode
  refine ⟨?_, fun d g v hschema hg hname hread ↦ ?_⟩
  · rw [houtcome, Invocation.run_convert hsupplied, Outcome.code_ofResult_eq_zero_iff]
    exact Invocation.exists_conversion_iff
  · have hgroup : d.group? group = some g :=
      (Schema.schemaWellFormed_of_parse hschema).group?_eq_some_iff.2 ⟨hg, hname⟩
    have hprints {t : FileTree} {stdin : Except DiskError String} {text : String} {v out : Json}
        (hsupplied : i.Supplied input t stdin schema text) (hread : Json.ofText? text = .ok v)
        (hconvert : Invocation.convertJson (.ofGroup g) shape v = .ok out) :
        (run stdin t).1.Shows out ∧ (run stdin t).2 = t := by
      rw [show run stdin t = (.printing out, t) from
        runProgram_of_convertJson hparse hcommand hsupplied hschema hgroup hread hconvert]
      exact ⟨Outcome.shows_printing (Invocation.proper_of_convertJson hconvert), rfl⟩
    refine ⟨fun r hr ↦ ?_, ?_⟩
    · exact (hprints hsupplied hread (Invocation.convertJson_of_record hr)).1
    · rintro items rfl hitems
      obtain ⟨outs, houts, heach⟩ := Invocation.exists_convertJson_array hitems
      refine ⟨outs, (hprints hsupplied hread houts).1, ?_⟩
      refine heach.imp fun item out hitem ↦ ?_
      obtain ⟨r, hr, rfl⟩ := Converter.convertedJson_eq_ok_iff.1 hitem
      exact ⟨⟨r, hr, rfl⟩, fun t' stdin' text' hsupplied' hread' ↦
        hprints hsupplied' hread' (Invocation.convertJson_of_record hr)⟩

/-- A strict run on an array from standard input, of which one record lacks what is read. -/
theorem runProgram_convert_array :
    let w : Wording := ⟨DiskError.message, fun _ ↦ ""⟩
    let folder : List String := FileTree.workingFolder ++ ["schema"]
    let schema := "a:\n x.y: t <=> p\n id: u\nb:\n"
    let t : FileTree := [(FileTree.workingFolder.dropLast, .folder),
      (FileTree.workingFolder, .folder), (folder, .folder),
      (folder ++ ["schema.tws"], .file schema.toUTF8)]
    let i : Invocation := ⟨⟨"."⟩, none, true, .convert ⟨"-"⟩ "a" .model⟩
    let args := ["transform", "--strict", "-", "--group", "a"]
    let alone := "\x7b\"p\":true\x7d"
    let text := "[\x7b\"p\":true\x7d,\x7b\"id\":\"\\n\",\"p\":\x7b\x7d\x7d]"
    let run (stdin : Except DiskError String) : StateM FileTree Outcome :=
      runProgram w args (pure stdin)
    Invocation.parse args = .ok i ∧ i.Supplied ⟨"-"⟩ t (.ok text) schema text ∧
      (run (.ok text) t).2 = t ∧
      ∃ first second, (run (.ok text) t).1.Shows (.array [first, second]) ∧
        (run (.ok alone) t).1.Shows first ∧ (run (.ok alone) t).2 = t ∧
        first.pretty = "\x7b\n  \"x\": \x7b\n    \"y\": true\n  \x7d,\n  \"id\": \"\"\n\x7d" := by
  intro w folder schema t i args alone text run
  let items : List Json := [.object [("p", .boolean true)],
    .object [("id", .string "\n"), ("p", .object [])]]
  let g : FieldGroup := ⟨"a", [⟨"x.y", "t", "p"⟩, ⟨"id", "u", "id"⟩]⟩
  have hparse : Invocation.parse args = .ok i := by decide +kernel
  have hfile : t.readText (Schema.path i.root) = .ok schema := by decide +kernel
  have hsupplied (s : String) : i.Supplied ⟨"-"⟩ t (.ok s) schema s :=
    ⟨hfile, if_pos (by decide +kernel)⟩
  have hschema : Schema.parse i.repeats schema = .ok ⟨[g, ⟨"b", []⟩]⟩ := by
    dsimp only [i, schema, g]
    rfl
  -- The tokens of a text are cut off by recursion on its length, which only simp unfolds.
  have hread : Json.ofText? text = .ok (.array items) := by
    simp [Json.ofText?, Outline.ofText, Token.all, Token.isBlank, Token.scanFrom, Token.mark?,
      Token.scanName, Spelling.scan, Spelling.simpleEscape?, text]
    rfl
  have hreadAlone : Json.ofText? alone = .ok (.object [("p", .boolean true)]) := by
    simp [Json.ofText?, Outline.ofText, Token.all, Token.isBlank, Token.scanFrom, Token.mark?,
      Token.scanName, Spelling.scan, alone]
    rfl
  obtain ⟨hstill, -, hrest⟩ :=
    runProgram_convert w args i hparse ⟨"-"⟩ "a" .model rfl t (.ok text)
  obtain ⟨-, hprint⟩ := hrest schema text (hsupplied text)
  obtain ⟨-, harray⟩ := hprint _ g _ hschema List.mem_cons_self rfl hread
  obtain ⟨outs, hshows, heach⟩ := harray items rfl (by unfold Json.Convertible; decide +kernel)
  obtain ⟨first, _, ⟨⟨r, hr, rfl⟩, halone⟩, htail, rfl⟩ := List.forall₂_cons_left_iff.1 heach
  obtain ⟨second, _, -, hnil, rfl⟩ := List.forall₂_cons_left_iff.1 htail
  obtain rfl := List.forall₂_nil_left_iff.1 hnil
  obtain ⟨hfirst, hstillAlone⟩ := halone t _ _ (hsupplied alone) hreadAlone
  refine ⟨hparse, hsupplied text, hstill, _, second, hshows, hfirst, hstillAlone, ?_⟩
  obtain rfl : [("p", .boolean true)] = r := Except.ok.inj hr
  decide +kernel

end Reshape
