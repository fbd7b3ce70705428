import Reshape.Disk.Path

namespace Reshape

inductive DiskError where
  | notFound
  | notAFolder
  | isAFolder
  | alreadyExists
  | notText
  | notRemovable
  | badName
  | nameTooLong
  | other (message : String)
  deriving DecidableEq

def DiskError.message : DiskError → String
  | .notFound => "no such file or folder"
  | .notAFolder => "not a folder"
  | .isAFolder => "is a folder"
  | .alreadyExists => "already exists"
  | .notText => "not valid UTF-8"
  | .notRemovable => "cannot be removed"
  | .badName => "not a valid name"
  | .nameTooLong => "name too long"
  | .other message => message

class DiskStore (m : Type → Type) where
  /-- Whether there is a file or folder. -/
  occupied : DiskPath → m Bool
  readText : DiskPath → m (Except DiskError String)
  /-- Creates a folder with all folders above it that do not exist. -/
  makeFolders : DiskPath → m (Except DiskError Unit)
  writeText : DiskPath → String → m (Except DiskError Unit)
  /-- Removes a folder with everything below it. -/
  removeFolder : DiskPath → m (Except DiskError Unit)

namespace DiskStore

variable {m : Type → Type} {ε α : Type} [Monad m]

def orFail (wrap : DiskError → ε) (operation : m (Except DiskError α)) : ExceptT ε m α :=
  ExceptT.mk do
    match ← operation with
    | .ok v => return .ok v
    | .error e => return .error (wrap e)

def isTaken [DiskStore m] (p : DiskPath) : ExceptT ε m Bool := ExceptT.lift (occupied p)

end DiskStore

end Reshape
