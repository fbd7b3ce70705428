import Reshape.CommandLine.Arguments
import Reshape.CommandLine.Report
import Reshape.Conversion.Converter
import Reshape.Schema.Render
import Reshape.Text.Blank

namespace Reshape

inductive CommandError where
  | noSchema (path : DiskPath)
  | schema (path : DiskPath) (e : SchemaFileError)
  | schemaExists (e : SchemaFileError)
  | generation (e : GenerationError)
  | unknownGroup (name : String) (available : List String)
  | input (path : DiskPath) (e : DiskError)
  | standardInput (e : DiskError)
  | json (path : DiskPath) (f : Fault)
  | record (e : RecordError)

def CommandError.chain (w : Wording) : CommandError → Chain
  | .noSchema path =>
    ["Schema file does not exist. Create " ++ path.text ++ " or run `datamap schema init`"]
  | .schema path e => ("Failed to parse " ++ path.text) :: e.chain w
  | .schemaExists e => e.chain w
  | .generation e => e.chain w
  | .unknownGroup name available =>
    ["Unknown group '" ++ name ++ "' (available: " ++ ", ".intercalate available ++ ")"]
  | .input path e => ["Failed to read " ++ path.text, w.disk e]
  | .standardInput e => ["Failed to read stdin", w.disk e]
  | .json path f => ["Failed to parse JSON from " ++ path.text, w.json (.fault f)]
  | .record e => e.chain w

structure Outcome where
  code : UInt32
  output : String
  errors : String

open DiskStore

variable {m : Type → Type} [Monad m] [DiskStore m]

namespace Invocation

variable (i : Invocation)

def repeats : Repeats := if i.strict then .refuse else .replace

def schema : ExceptT CommandError m Schema :=
  (Schema.ofProject i.repeats i.root).adapt fun e ↦
    match e with
    | .absent path => .noSchema path
    | e => .schema (Schema.path i.root) e

/-- An options file that is named has to be there. -/
def options : ExceptT GenerationError m Options :=
  match i.optionsFile with
  | some path => Options.readFrom path
  | none => Options.ofProject i.root

def generate : ExceptT CommandError m String := do
  let d ← i.schema
  let options ← i.options.adapt .generation
  let _ ← (Project.generate ⟨i.root, options⟩ d).adapt .generation
  return ""

def asLines (text : String) : String := String.ofList (Text.trimEnd text.toList) ++ "\n"

def inspect (format : Format) : ExceptT CommandError m String := do
  let d ← i.schema
  return asLines (match format with
    | .json => d.toJson.pretty
    | .yaml => d.toYaml)

def convertJson (c : Converter) (shape : Shape) (v : Json) : Except RecordError Json := do
  let map := match shape with
    | .model => c.modelMap
    | .entity => c.entityMap
  match v with
  | .array items =>
    let records ← items.mapM Record.ofJson
    return .array ((map.convertAll records).map Record.toJson)
  | v =>
    let r ← Record.ofJson v
    return (map.convert r).toJson

def readInput (stdin : m (Except DiskError String)) (input : DiskPath) :
    ExceptT CommandError m String :=
  if input.same ⟨"-"⟩ then orFail .standardInput stdin
  else orFail (.input input) (readText input)

def convert (stdin : m (Except DiskError String)) (input : DiskPath) (group : String)
    (shape : Shape) : ExceptT CommandError m String := do
  let d ← i.schema
  match d.group? group with
  | none => throw (.unknownGroup group d.names)
  | some g =>
    let text ← readInput stdin input
    match Json.ofText? text with
    | .error f => throw (.json input f)
    | .ok v =>
      match convertJson (.ofGroup g) shape v with
      | .error e => throw (.record e)
      | .ok converted => return converted.pretty ++ "\n"

def execute (stdin : m (Except DiskError String)) : ExceptT CommandError m String :=
  match i.command with
  | .writeOptions => do
    let _ ← (Options.create i.root).adapt .generation
    return ""
  | .writeSchema => do
    let _ ← (Schema.create i.root).adapt .schemaExists
    return ""
  | .generate => i.generate
  | .inspect format => i.inspect format
  | .convert input group shape => i.convert stdin input group shape

end Invocation

def usageText : String :=
  "Usage: datamap [--dir DIR] [--config FILE] [--strict] COMMAND\n" ++
  "Commands:\n" ++
  "  init\n" ++
  "  schema init | generate | inspect [--format json|yaml]\n" ++
  "  transform INPUT --group GROUP [--to model|entity]\n"

def versionText : String := "datamap 0.1.0\n"

/-- Runs the program. A failed command prints nothing but its failure. -/
def runProgram (w : Wording) (args : List String) (stdin : m (Except DiskError String)) :
    m Outcome :=
  match Invocation.parse args with
  | .error .usage => return ⟨2, "", usageText⟩
  | .error .help => return ⟨0, usageText, ""⟩
  | .error .version => return ⟨0, versionText, ""⟩
  | .ok i => do
    match ← (i.execute stdin).run with
    | .ok output => return ⟨0, output, ""⟩
    | .error e => return ⟨1, "", (e.chain w).render⟩

end Reshape
