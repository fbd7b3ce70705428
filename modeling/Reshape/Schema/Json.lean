import Reshape.Json.Form
import Reshape.Schema.Basic

namespace Reshape

open Outline

namespace Mapping

def toJson (f : Mapping) : Json :=
  .object [("source_path", .string f.modelPath), ("declared_type", .string f.type),
    ("target_path", .string f.entityPath)]

structure Given where
  modelPath : Option String
  type : Option String
  entityPath : Option String

def Given.take (p : Given) : String → Option (Outline → Except ReadError Given)
  | "source_path" => some fun v ↦
    (once "source_path" p.modelPath readString v).map fun s ↦ { p with modelPath := some s }
  | "declared_type" => some fun v ↦
    (once "declared_type" p.type readString v).map fun s ↦ { p with type := some s }
  | "target_path" => some fun v ↦
    (once "target_path" p.entityPath readString v).map fun s ↦ { p with entityPath := some s }
  | _ => none

def Given.finish : Given → Except ReadError Mapping
  | ⟨none, _, _⟩ => .error (.misfit (.missingField "source_path"))
  | ⟨_, none, _⟩ => .error (.misfit (.missingField "declared_type"))
  | ⟨_, _, none⟩ => .error (.misfit (.missingField "target_path"))
  | ⟨some s, some d, some t⟩ => .ok ⟨s, d, t⟩

def tooShort (n : Nat) : ReadError :=
  .misfit (.length n "struct FieldMapping with 3 elements")

/-- A mapping is an object, or the list of its three texts. -/
def read : Outline → Except ReadError Mapping
  | .object members fault => do
    let p ← foldMembers Given.take fault ⟨none, none, none⟩ members
    p.finish
  | .array items fault => do
    let some (s, rest) ← nextItem fault items | .error (tooShort 0)
    let s ← readString s
    let some (d, rest) ← nextItem fault rest | .error (tooShort 1)
    let d ← readString d
    let some (t, rest) ← nextItem fault rest | .error (tooShort 2)
    let t ← readString t
    noMoreItems fault rest
    return ⟨s, d, t⟩
  | v => v.unexpected "struct FieldMapping"

end Mapping

namespace FieldGroup

def toJson (g : FieldGroup) : Json :=
  .object [("name", .string g.name), ("fields", .array (g.mappings.map (·.toJson)))]

structure Given where
  name : Option String
  mappings : Option (List Mapping)

def Given.take (p : Given) : String → Option (Outline → Except ReadError Given)
  | "name" => some fun v ↦
    (once "name" p.name readString v).map fun s ↦ { p with name := some s }
  | "fields" => some fun v ↦
    (once "fields" p.mappings (readList Mapping.read) v).map fun fs ↦
      { p with mappings := some fs }
  | _ => none

def Given.finish : Given → Except ReadError FieldGroup
  | ⟨none, _⟩ => .error (.misfit (.missingField "name"))
  | ⟨_, none⟩ => .error (.misfit (.missingField "fields"))
  | ⟨some name, some mappings⟩ => .ok ⟨name, mappings⟩

def tooShort (n : Nat) : ReadError :=
  .misfit (.length n "struct EntityGroup with 2 elements")

def read : Outline → Except ReadError FieldGroup
  | .object members fault => do
    let p ← foldMembers Given.take fault ⟨none, none⟩ members
    p.finish
  | .array items fault => do
    let some (name, rest) ← nextItem fault items | .error (tooShort 0)
    let name ← readString name
    let some (mappings, rest) ← nextItem fault rest | .error (tooShort 1)
    let mappings ← readList Mapping.read mappings
    noMoreItems fault rest
    return ⟨name, mappings⟩
  | v => v.unexpected "struct EntityGroup"

end FieldGroup

namespace Schema

def toJson (d : Schema) : Json :=
  .object [("groups", .array (d.groups.map (·.toJson)))]

def takeGroups (groups : Option (List FieldGroup)) :
    String → Option (Outline → Except ReadError (Option (List FieldGroup)))
  | "groups" => some fun v ↦ (once "groups" groups (readList FieldGroup.read) v).map some
  | _ => none

def read : Outline → Except ReadError Schema
  | .object members fault => do
    let some groups ← foldMembers takeGroups fault none members
      | .error (.misfit (.missingField "groups"))
    return ⟨groups⟩
  | .array items fault => do
    let some (groups, rest) ← nextItem fault items
      | .error (.misfit (.length 0 "struct SchemaDocument with 1 element"))
    let groups ← readList FieldGroup.read groups
    noMoreItems fault rest
    return ⟨groups⟩
  | v => v.unexpected "struct SchemaDocument"

def ofJsonText (text : String) : Except ReadError Schema := readText read text

end Schema

end Reshape
