import Reshape.Generation.Plan
import Reshape.Schema.File

namespace Reshape

structure Conflict where
  group : String
  path : DiskPath
  deriving DecidableEq

inductive GenerationError where
  | disk (e : DiskError)
  | options (path : DiskPath) (e : ReadError)
  | optionsPresent (path : DiskPath)
  | outputPresent (conflicts : List Conflict)
  | collision (c : Collision)
  | schema (e : SchemaFileError)
  deriving DecidableEq

structure Written where
  group : String
  typeName : String
  files : List DiskPath
  deriving DecidableEq

def Written.count (all : List Written) : Nat := all.foldr (fun w n ↦ w.files.length + n) 0

open DiskStore

variable {m : Type → Type} [Monad m] [DiskStore m]

namespace Options

def path (root : DiskPath) : DiskPath := root.join "tw-config.json"

def readFrom (path : DiskPath) : ExceptT GenerationError m Options := do
  let text ← orFail .disk (readText path)
  match ofText text with
  | .ok o => return o
  | .error e => throw (.options path e)

def ofProject (root : DiskPath) : ExceptT GenerationError m Options := do
  if ← isTaken (path root) then readFrom (path root) else return {}

/-- Writes the defaults where there is no options file. No folder is created for it. -/
def create (root : DiskPath) : ExceptT GenerationError m DiskPath := do
  let path := path root
  if ← isTaken path then throw (.optionsPresent path)
  orFail .disk (writeText path ({} : Options).toJson.pretty)
  return path

end Options

namespace Project

variable (p : Project)

def conflictsAmong : List (String × DiskPath) → m (List Conflict)
  | [] => return []
  | (group, path) :: rest => do
    let taken ← occupied path
    let conflicts ← conflictsAmong rest
    return if taken then ⟨group, path⟩ :: conflicts else conflicts

def conflicts (all : List GroupFiles) : m (List Conflict) :=
  conflictsAmong (GroupFiles.outputs all)

def clear : ExceptT GenerationError m Bool := do
  if p.options.clearFirst then
    if ← isTaken p.outputFolder then
      orFail .disk (removeFolder p.outputFolder)
      return true
  return false

def save (file : OutputFile) : ExceptT GenerationError m Unit := do
  orFail .disk (makeFolders file.path.parent)
  orFail .disk (writeText file.path file.contents)

def saveAll : List OutputFile → ExceptT GenerationError m Unit
  | [] => return
  | file :: rest => do
    save file
    saveAll rest

/-- Writes one file after another. What was written before a failure stays. -/
def saveGroups : List GroupFiles → ExceptT GenerationError m (List Written)
  | [] => return []
  | g :: rest => do
    saveAll g.files
    let written ← saveGroups rest
    return ⟨g.group, g.typeName, g.files.map (·.path)⟩ :: written

/-- Generates the files of all groups. The output folder is cleared after planning, and files that
exist then are replaced only if the options say so. -/
def generate (d : Schema) : ExceptT GenerationError m (List Written) := do
  match p.plan d with
  | .error collision => throw (.collision collision)
  | .ok all =>
    let _ ← p.clear
    if !p.options.overwrite then
      let conflicts ← ExceptT.lift (conflicts all)
      if !conflicts.isEmpty then throw (.outputPresent conflicts)
    saveGroups all

def generateOwn (repeats : Repeats) : ExceptT GenerationError m (List Written) := do
  let d ← (Schema.ofProject repeats p.root).adapt .schema
  p.generate d

end Project

end Reshape
