import Reshape.Conversion.PathMap
import Reshape.Record.At
import Reshape.Record.Draft

namespace Reshape

/-- Written for an input that leads nowhere. -/
def absentText : String := ""

namespace PathMap

def valueOf (source : Record) (input : String) : Value :=
  (source.at? (DottedPath.ofText input).segments).getD (.string absentText)

def fill (source : Record) : Draft → List (String × String) → Draft
  | d, [] => d
  | d, (output, input) :: rest =>
    fill source (d.put (DottedPath.ofText output) (valueOf source input)) rest

def convert (m : PathMap) (source : Record) : Record := Draft.finish (fill source [] m)

def convertAll (m : PathMap) (sources : List Record) : List Record := sources.map m.convert

end PathMap

structure Converter where
  /-- From model paths to the entity paths that they read. -/
  modelMap : PathMap
  entityMap : PathMap

namespace Converter

def ofMap (m : PathMap) : Converter := ⟨m, m.inverse⟩

def ofGroup (g : FieldGroup) : Converter := ofMap (.ofGroup g)

variable (c : Converter)

def modelOf (entity : Record) : Record := c.modelMap.convert entity

def entityOf (model : Record) : Record := c.entityMap.convert model

def modelsOf (entities : List Record) : List Record := c.modelMap.convertAll entities

def entitiesOf (models : List Record) : List Record := c.entityMap.convertAll models

def same (other : Converter) : Bool :=
  c.modelMap.same other.modelMap && c.entityMap.same other.entityMap

end Converter

end Reshape
