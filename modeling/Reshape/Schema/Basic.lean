namespace Reshape

/-- One line of a group: where a value stands in the model, its type, and where it stands in the
entity. The type is any text. -/
structure Mapping where
  modelPath : String
  type : String
  entityPath : String
  deriving DecidableEq

def Mapping.renames (f : Mapping) : Bool := f.modelPath != f.entityPath

structure FieldGroup where
  name : String
  mappings : List Mapping
  deriving DecidableEq

structure TypedPath where
  path : String
  type : String
  deriving DecidableEq

namespace FieldGroup

variable (g : FieldGroup)

def mapping? (modelPath : String) : Option Mapping :=
  g.mappings.find? (·.modelPath == modelPath)

def modelSide : List TypedPath := g.mappings.map fun f ↦ ⟨f.modelPath, f.type⟩

def entitySide : List TypedPath := g.mappings.map fun f ↦ ⟨f.entityPath, f.type⟩

def pairs : List (String × String) := g.mappings.map fun f ↦ (f.modelPath, f.entityPath)

end FieldGroup

structure Schema where
  groups : List FieldGroup
  deriving DecidableEq

namespace Schema

variable (d : Schema)

def group? (name : String) : Option FieldGroup := d.groups.find? (·.name == name)

def names : List String := d.groups.map (·.name)

end Schema

end Reshape
