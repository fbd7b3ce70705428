import Reshape.Disk.Path
import Reshape.Keyed

namespace Reshape

inductive Format where
  | json
  | yaml
  deriving DecidableEq

inductive Shape where
  | model
  | entity
  deriving DecidableEq

inductive Command where
  | writeOptions
  | writeSchema
  | generate
  | inspect (format : Format)
  | convert (input : DiskPath) (group : String) (shape : Shape)
  deriving DecidableEq

structure Invocation where
  root : DiskPath
  optionsFile : Option DiskPath
  strict : Bool
  command : Command
  deriving DecidableEq

namespace Arguments

inductive Stop where
  | usage
  | help
  | version
  deriving DecidableEq

inductive Level where
  | program
  | init
  | schema
  | schemaInit
  | schemaGenerate
  | schemaInspect
  | transform
  deriving DecidableEq

inductive Valued where
  | dir
  | config
  | group
  | to
  | format
  deriving DecidableEq

inductive Switch where
  | strict
  | help
  | version
  deriving DecidableEq

def Level.below : Level → List (String × Level)
  | .program => [("init", .init), ("schema", .schema), ("transform", .transform)]
  | .schema =>
    [("init", .schemaInit), ("generate", .schemaGenerate), ("inspect", .schemaInspect)]
  | _ => []

def Level.valued : Level → List (String × Option Char × Valued)
  | .transform => [("group", some 'g', .group), ("to", none, .to)] ++ shared
  | .schemaInspect => [("format", none, .format)] ++ shared
  | _ => shared
where
  shared : List (String × Option Char × Valued) :=
    [("dir", some 'd', .dir), ("config", some 'c', .config)]

def Level.switches : Level → List (String × Option Char × Switch)
  | .program => shared ++ [("version", some 'V', .version)]
  | _ => shared
where
  shared : List (String × Option Char × Switch) :=
    [("strict", none, .strict), ("help", some 'h', .help)]

def formats : List (String × Format) := [("json", .json), ("yaml", .yaml)]

def shapes : List (String × Shape) := [("model", .model), ("entity", .entity)]

def Valued.accepts (value : String) : Valued → Bool
  | .dir | .config => !value.isEmpty
  | .group => true
  | .to => Keyed.contains value shapes
  | .format => Keyed.contains value formats

structure Given where
  values : Keyed Valued String
  strict : Bool
  input : Option String

namespace Given

def nothing : Given := ⟨[], false, none⟩

def option (g : Given) (o : Valued) (value : String) : Except Stop Given :=
  if g.values.contains o || !o.accepts value then .error .usage
  else .ok { g with values := g.values.insert o value }

def switch (g : Given) : Switch → Except Stop Given
  | .strict => if g.strict then .error .usage else .ok { g with strict := true }
  | .help => .error .help
  | .version => .error .version

def positional (level : Level) (g : Given) (value : String) : Except Stop Given :=
  if level ≠ .transform ∨ g.input.isSome ∨ value.isEmpty then .error .usage
  else .ok { g with input := some value }

def positionals (level : Level) : Given → List String → Except Stop Given
  | g, [] => .ok g
  | g, value :: rest => do
    let g ← g.positional level value
    positionals level g rest

/-- A row of one-letter options. The first one that takes a value takes the rest of the row, if
there is any, and is still to get its value otherwise. -/
def letters (level : Level) : Given → List Char → Except Stop (Given × Option Valued)
  | g, [] => .ok (g, none)
  | g, c :: rest =>
    match level.switches.find? (·.2.1 == some c), level.valued.find? (·.2.1 == some c) with
    | some (_, _, s), _ => do
      let g ← g.switch s
      letters level g rest
    | none, some (_, _, o) =>
      match rest with
      | [] => .ok (g, some o)
      | '=' :: value => (g.option o (.ofList value)).map fun g ↦ (g, none)
      | value => (g.option o (.ofList value)).map fun g ↦ (g, none)
    | none, none => .error .usage

def word (level : Level) (g : Given) (text : List Char) : Except Stop (Given × Option Valued) :=
  let name := String.ofList (text.takeWhile (· != '='))
  let attached := text.dropWhile (· != '=')
  match level.switches.find? (·.1 == name), level.valued.find? (·.1 == name), attached with
  | some (_, _, s), _, [] => (g.switch s).map fun g ↦ (g, none)
  | some _, _, _ => .error .usage
  | none, some (_, _, o), [] => .ok (g, some o)
  | none, some (_, _, o), _ :: value => (g.option o (.ofList value)).map fun g ↦ (g, none)
  | none, none, _ => .error .usage

def hyphened (level : Level) (g : Given) : List Char → Except Stop (Given × Option Valued)
  | '-' :: '-' :: text => g.word level text
  | _ :: text => g.letters level text
  | [] => .error .usage

end Given

def isHyphened (arg : String) : Bool := arg.toList.head? == some '-' && arg != "-"

/-- Reads the arguments up to the word for a level below, which is given with the arguments after
it. After two hyphens no argument is an option. -/
def scan (level : Level) :
    Given → List String → Except Stop (Given × Option (String × List String))
  | g, [] => .ok (g, none)
  | g, arg :: rest =>
    if Keyed.contains arg level.below || arg == "help" && !level.below.isEmpty then
      .ok (g, some (arg, rest))
    else if arg = "--" then (g.positionals level rest).map fun g ↦ (g, none)
    else if isHyphened arg then
      match g.hyphened level arg.toList with
      | .error stop => .error stop
      | .ok (g, none) => scan level g rest
      | .ok (g, some o) =>
        match rest with
        | [] => .error .usage
        | value :: rest =>
          if isHyphened value then .error .usage
          else
            match g.option o value with
            | .error stop => .error stop
            | .ok g => scan level g rest
    else
      match g.positional level arg with
      | .error stop => .error stop
      | .ok g => scan level g rest

def helpOn (level : Level) : List String → Stop
  | [] => .help
  | word :: rest =>
    match Keyed.get? word level.below with
    | some level => helpOn level rest
    | none => if word = "help" ∧ rest = [] ∧ !level.below.isEmpty then .help else .usage

def Given.command? (g : Given) : Level → Option Command
  | .program | .schema => none
  | .init => some .writeOptions
  | .schemaInit => some .writeSchema
  | .schemaGenerate => some .generate
  | .schemaInspect =>
    match g.values.get? .format with
    | none => some (.inspect .json)
    | some name => (Keyed.get? name formats).map .inspect
  | .transform =>
    match g.input, g.values.get? .group, g.values.get? .to with
    | some input, some group, none => some (.convert ⟨input⟩ group .model)
    | some input, some group, some name =>
      (Keyed.get? name shapes).map (.convert ⟨input⟩ group)
    | _, _, _ => none

/-- An option that is shared by all levels counts where it was given last. -/
def shared (levels : List Given) (o : Valued) : Option String :=
  (levels.findSome? fun g ↦ g.values.get? o)

def invocation (levels : List Given) (command : Command) : Invocation :=
  { root := ⟨(shared levels .dir).getD "."⟩
    optionsFile := (shared levels .config).map DiskPath.mk
    strict := levels.any (·.strict)
    command }

def parseFrom (level : Level) (above : List Given) (args : List String) :
    Nat → Except Stop Invocation
  | 0 => .error .usage
  | depth + 1 => do
    let (g, next) ← scan level .nothing args
    match next with
    | none =>
      match g.command? level with
      | some command => return invocation (g :: above) command
      | none => throw .usage
    | some (word, rest) =>
      match Keyed.get? word level.below with
      | some below => parseFrom below (g :: above) rest depth
      | none => throw (helpOn level rest)

end Arguments

def Invocation.parse (args : List String) : Except Arguments.Stop Invocation :=
  Arguments.parseFrom .program [] args 3

end Reshape
