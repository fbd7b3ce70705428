import Reshape.Text.Split

namespace Reshape

/-- The text of a path to a file or folder. Paths are joined and never normalized. -/
structure DiskPath where
  text : String
  deriving DecidableEq

namespace DiskPath

def isAbsolute (p : DiskPath) : Bool := p.text.toList.head? == some '/'

def endsInSlash (p : DiskPath) : Bool := p.text.toList.getLast? == some '/'

/-- An absolute path stands for itself wherever it is joined. -/
def join (p : DiskPath) (q : String) : DiskPath :=
  if (DiskPath.mk q).isAbsolute then ⟨q⟩
  else if p.text.isEmpty || p.endsInSlash then ⟨p.text ++ q⟩
  else ⟨p.text ++ "/" ++ q⟩

def steps (p : DiskPath) : List String :=
  let (piece, pieces) := Text.splitOn '/' p.text.toList
  ((piece :: pieces).filter (!·.isEmpty)).map String.ofList

/-- What tells two paths apart: repeated and trailing slashes do not, nor do single dots except
at the very start. -/
def components (p : DiskPath) : List String :=
  if p.isAbsolute then "/" :: p.steps.filter (· != ".")
  else
    match p.steps with
    | [] => []
    | first :: rest => first :: rest.filter (· != ".")

def same (p q : DiskPath) : Bool := p.components == q.components

def dropIdle : List Char → List Char
  | '/' :: rest => dropIdle rest
  | '.' :: '/' :: rest => dropIdle ('/' :: rest)
  | rest => rest

def parent (p : DiskPath) : DiskPath :=
  let above := dropIdle ((dropIdle p.text.toList.reverse).dropWhile (· != '/'))
  if above.isEmpty && p.isAbsolute then ⟨"/"⟩ else ⟨String.ofList above.reverse⟩

end DiskPath

end Reshape
