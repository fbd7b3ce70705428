import Reshape.Schema.Json
import Reshape.Yaml.Scalar

namespace Reshape

def Mapping.yamlLines (f : Mapping) : List String :=
  let value (s : String) := Yaml.scalar 6 s
  ["  - source_path: " ++ value f.modelPath,
    "    declared_type: " ++ value f.type,
    "    target_path: " ++ value f.entityPath]

def FieldGroup.yamlLines (g : FieldGroup) : List String :=
  ("- name: " ++ Yaml.scalar 4 g.name) ::
    if g.mappings.isEmpty then ["  fields: []"]
    else "  fields:" :: g.mappings.flatMap Mapping.yamlLines

namespace Schema

def yamlLines (d : Schema) : List String :=
  if d.groups.isEmpty then ["groups: []"]
  else "groups:" :: d.groups.flatMap FieldGroup.yamlLines

def toYaml (d : Schema) : String := String.join (d.yamlLines.map (· ++ "\n"))

end Schema

end Reshape
