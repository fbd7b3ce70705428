import Reshape.TypeScript.Interface

namespace Reshape.TypeScript

structure TypeImport where
  type : String
  source : String

def TypeImport.line (i : TypeImport) : String :=
  "import type \x7b " ++ i.type ++ " \x7d from " ++ literal i.source

structure MapperModule where
  name : String
  model : TypeImport
  entity : TypeImport
  /-- The package that exports the runtime. -/
  runtime : String

namespace MapperModule

def pairLine (pair : String × String) : String :=
  indent (memberName pair.1 ++ ": " ++ literal pair.2 ++ ",")

def render (m : MapperModule) (pairs : List (String × String)) : String :=
  unlines <|
    ["import \x7b Mapper, type TransformationMap \x7d from " ++ literal m.runtime,
      m.entity.line,
      m.model.line,
      "",
      "const transformationMap: TransformationMap<" ++ m.model.type ++ ", " ++ m.entity.type ++
        "> = \x7b"] ++
    pairs.map pairLine ++
    ["\x7d",
      "",
      "export const " ++ m.name ++ " = new Mapper<" ++ m.entity.type ++ ", " ++ m.model.type ++
        ">(transformationMap)"]

end MapperModule

end Reshape.TypeScript
