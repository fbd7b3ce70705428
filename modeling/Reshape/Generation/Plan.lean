import Reshape.Disk.Path
import Reshape.Generation.Options
import Reshape.TypeScript.MapperModule
import Reshape.Words

namespace Reshape

inductive FileKind where
  | model
  | entity
  | mapper
  deriving DecidableEq

structure OutputFile where
  kind : FileKind
  path : DiskPath
  contents : String
  deriving DecidableEq

structure GroupFiles where
  group : String
  typeName : String
  files : List OutputFile
  deriving DecidableEq

structure Collision where
  path : DiskPath
  firstGroup : String
  group : String
  deriving DecidableEq

structure Project where
  root : DiskPath
  options : Options

namespace Project

variable (p : Project)

/-- The folder for the output. Leading slashes do not take it out of the project root. -/
def outputFolder : DiskPath :=
  p.root.join (String.ofList (p.options.folder.toList.dropWhile fun c ↦ c == '/' || c == '\\'))

def filesOf (g : FieldGroup) : GroupFiles :=
  let o := p.options
  let typeName := Words.pascal g.name
  let stem := Words.kebab typeName
  let modelType := typeName ++ Words.pascal o.modelSuffix
  let entityType := typeName ++ Words.pascal o.entitySuffix
  let file (kind : FileKind) (suffix contents : String) : OutputFile :=
    ⟨kind, (p.outputFolder.join stem).join (stem ++ suffix ++ ".ts"), contents⟩
  let mapper : TypeScript.MapperModule :=
    { name := typeName ++ "Mapper"
      model := ⟨modelType, "./" ++ stem ++ o.modelSuffix⟩
      entity := ⟨entityType, "./" ++ stem ++ o.entitySuffix⟩
      runtime := o.runtime }
  { group := g.name
    typeName
    files :=
      [file .model o.modelSuffix (TypeScript.interfaceText modelType g.modelSide),
        file .entity o.entitySuffix (TypeScript.interfaceText entityType g.entitySide),
        file .mapper o.mapperSuffix (mapper.render g.pairs)] }

end Project

def GroupFiles.outputs (all : List GroupFiles) : List (String × DiskPath) :=
  all.flatMap fun g ↦ g.files.map fun file ↦ (g.group, file.path)

def firstCollision (seen : List (String × DiskPath)) :
    List (String × DiskPath) → Option Collision
  | [] => none
  | (group, path) :: rest =>
    match seen.find? fun earlier ↦ earlier.2.same path with
    | some (firstGroup, _) => some ⟨path, firstGroup, group⟩
    | none => firstCollision ((group, path) :: seen) rest

def Project.plan (p : Project) (d : Schema) : Except Collision (List GroupFiles) :=
  let all := d.groups.map p.filesOf
  match firstCollision [] (GroupFiles.outputs all) with
  | some collision => .error collision
  | none => .ok all

end Reshape
