import Reshape.Disk.Store
import Reshape.Schema.Reader

namespace Reshape

inductive SchemaFileError where
  | unreadable (e : ParseError)
  | absent (path : DiskPath)
  | present (path : DiskPath)
  | disk (e : DiskError)
  deriving DecidableEq

namespace Schema

def path (root : DiskPath) : DiskPath := (root.join "schema").join "schema.tws"

def starter : String :=
  "user:\n" ++
  "  id: number <=> id\n" ++
  "  name: string <=> name\n" ++
  "  email: string <=> email\n" ++
  "  companyName: string <=> company.name\n" ++
  "  companyAddress: string <=> company.address.street\n"

variable {m : Type → Type} [Monad m] [DiskStore m]

open DiskStore

def readFrom (repeats : Repeats) (path : DiskPath) : ExceptT SchemaFileError m Schema := do
  if !(← isTaken path) then throw (.absent path)
  let text ← orFail .disk (readText path)
  match parse repeats text with
  | .ok d => return d
  | .error e => throw (.unreadable e)

def ofProject (repeats : Repeats) (root : DiskPath) : ExceptT SchemaFileError m Schema :=
  readFrom repeats (path root)

def create (root : DiskPath) : ExceptT SchemaFileError m DiskPath := do
  let path := path root
  if ← isTaken path then throw (.present path)
  orFail .disk (makeFolders path.parent)
  orFail .disk (writeText path starter)
  return path

end Schema

end Reshape
