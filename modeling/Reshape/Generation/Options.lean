import Reshape.Json.Form

namespace Reshape

structure Options where
  /-- The folder for the output, below the project root. -/
  folder : String := "/app"
  modelSuffix : String := ".model"
  mapperSuffix : String := ".mapper"
  entitySuffix : String := ".entity"
  /-- Whether files that exist are replaced. -/
  overwrite : Bool := false
  /-- Whether the whole output folder is removed first. -/
  clearFirst : Bool := false
  /-- Where generated mappers import their runtime from. -/
  runtime : String := "@tamnt-work/data-mapper"
  deriving DecidableEq

namespace Options

open Outline

def toJson (o : Options) : Json :=
  .object [("modulePath", .string o.folder), ("modelSuffix", .string o.modelSuffix),
    ("mapperSuffix", .string o.mapperSuffix), ("entitySuffix", .string o.entitySuffix),
    ("overwrite", .boolean o.overwrite), ("cleanModule", .boolean o.clearFirst),
    ("runtimePackage", .string o.runtime)]

structure Entry where
  name : String
  read : Options → Outline → Except ReadError Options

def entries : List Entry :=
  [⟨"modulePath", fun o v ↦ (readString v).map fun s ↦ { o with folder := s }⟩,
    ⟨"modelSuffix", fun o v ↦ (readString v).map fun s ↦ { o with modelSuffix := s }⟩,
    ⟨"mapperSuffix", fun o v ↦ (readString v).map fun s ↦ { o with mapperSuffix := s }⟩,
    ⟨"entitySuffix", fun o v ↦ (readString v).map fun s ↦ { o with entitySuffix := s }⟩,
    ⟨"overwrite", fun o v ↦ (readBoolean v).map fun b ↦ { o with overwrite := b }⟩,
    ⟨"cleanModule", fun o v ↦ (readBoolean v).map fun b ↦ { o with clearFirst := b }⟩,
    ⟨"runtimePackage", fun o v ↦ (readString v).map fun s ↦ { o with runtime := s }⟩]

abbrev Given := Options × List String

def takeEntry (given : Given) (name : String) : Option (Outline → Except ReadError Given) :=
  (entries.find? (·.name == name)).map fun entry v ↦
    if given.2.contains name then .error (.misfit (.duplicateField name))
    else (entry.read given.1 v).map fun o ↦ (o, name :: given.2)

/-- A list gives the entries in their order and may stop early. -/
def readInOrder (fault : Option Fault) :
    Options → List Entry → List Outline → Except ReadError Options
  | o, [], items => do
    noMoreItems fault items
    return o
  | o, _ :: _, [] => do
    liftFault (checkEnd fault)
    return o
  | o, entry :: entries, v :: rest => do
    let o ← entry.read o v
    readInOrder fault o entries rest

def read : Outline → Except ReadError Options
  | .object members fault => do
    let (o, _) ← foldMembers takeEntry fault (({} : Options), []) members
    return o
  | .array items fault => readInOrder fault {} entries items
  | v => v.unexpected "struct GeneratorConfig"

def ofText (text : String) : Except ReadError Options := readText read text

end Options

end Reshape
