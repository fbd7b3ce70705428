import Reshape.Disk.Store
import Reshape.Keyed

namespace Reshape

inductive Node where
  | file (bytes : ByteArray)
  | folder

/-- Files and folders by their place, the names that lead there from the top folder. The top
folder has no entry of its own and is its own parent. -/
abbrev FileTree := Keyed (List String) Node

namespace FileTree

def workingFolder : List String := ["outer", "work"]

def fresh : FileTree := [(workingFolder.dropLast, .folder), (workingFolder, .folder)]

variable (t : FileTree)

def node? (place : List String) : Option Node :=
  if place.isEmpty then some .folder else t.get? place

def nameLimit : Nat := 255

def pathLimit : Nat := 4095

def checked (p : DiskPath) : Except DiskError DiskPath :=
  if p.text.isEmpty then .error .notFound
  else if p.text.toList.contains '\x00' then .error .badName
  else if pathLimit < p.text.utf8ByteSize then .error .nameTooLong
  else .ok p

def advance (place : List String) (step : String) : Except DiskError (List String) :=
  if step = "." then .ok place
  else if step = ".." then .ok place.dropLast
  else if nameLimit < step.utf8ByteSize then .error .nameTooLong
  else .ok (place ++ [step])

def walk (place : List String) : List String → Except DiskError (List String)
  | [] => .ok place
  | step :: rest =>
    match t.node? place with
    | none => .error .notFound
    | some (.file _) => .error .notAFolder
    | some .folder =>
      match advance place step with
      | .ok place => walk place rest
      | .error e => .error e

def start (p : DiskPath) : List String := if p.isAbsolute then [] else workingFolder

/-- The place that a path names. A slash at the end asks for a folder. -/
def locate (p : DiskPath) : Except DiskError (List String) :=
  match checked p with
  | .ok p => t.walk (start p) (p.steps ++ if p.endsInSlash then ["."] else [])
  | .error e => .error e

def occupied (p : DiskPath) : Bool :=
  match t.locate p with
  | .ok place => (t.node? place).isSome
  | .error _ => false

def readText (p : DiskPath) : Except DiskError String :=
  match t.locate p with
  | .error e => .error e
  | .ok place =>
    match t.node? place with
    | none => .error .notFound
    | some .folder => .error .isAFolder
    | some (.file bytes) =>
      match String.fromUTF8? bytes with
      | some text => .ok text
      | none => .error .notText

/-- Creates the folders along the steps that are missing. Those made before a failure stay. -/
def makeAlong (t : FileTree) (place : List String) :
    List String → Except DiskError Unit × FileTree
  | [] => (.ok (), t)
  | step :: rest =>
    match t.walk place [step] with
    | .error e => (.error e, t)
    | .ok place =>
      match t.node? place with
      | some .folder => makeAlong t place rest
      | some (.file _) => (.error .alreadyExists, t)
      | none => makeAlong (t.insert place .folder) place rest

def isFolder (place : List String) (steps : List String) : Bool :=
  match t.walk place steps with
  | .ok place => match t.node? place with
    | some .folder => true
    | _ => false
  | .error _ => false

/-- Creates a folder and those above it. With a dot at the end only those above are created, and
the folder itself has to be there. -/
def makeFolders (p : DiskPath) : Except DiskError Unit × FileTree :=
  if p.text.isEmpty then (.ok (), t)
  else
    match checked p with
    | .error e => (.error e, t)
    | .ok p =>
      let names := (p.steps.reverse.dropWhile (· == ".")).reverse
      if p.steps.getLast? == some "." then
        let (made, t) := t.makeAlong (start p) names.dropLast
        match made with
        | .ok () => (if t.isFolder (start p) names then .ok () else .error .notFound, t)
        | .error e => (.error e, t)
      else t.makeAlong (start p) names

def write (p : DiskPath) (bytes : ByteArray) : Except DiskError Unit × FileTree :=
  match checked p with
  | .error e => (.error e, t)
  | .ok p =>
    if p.endsInSlash then (.error .isAFolder, t)
    else
      match t.walk (start p) p.steps with
      | .error e => (.error e, t)
      | .ok place =>
        match t.node? place with
        | some .folder => (.error .isAFolder, t)
        | _ => (.ok (), t.insert place (.file bytes))

def isBelow (place other : List String) : Bool := place.isPrefixOf other && other != place

def emptied (place : List String) : FileTree := t.filter fun e ↦ !isBelow place e.1

def endsInName (p : DiskPath) : Bool :=
  match p.steps.getLast? with
  | none => false
  | some step => step != "." && step != ".."

/-- Removes a folder with everything below it. The folder itself goes last, and stays if the way
to it led through what is gone by then. One that is named by dots cannot be removed. -/
def removeFolder (p : DiskPath) : Except DiskError Unit × FileTree :=
  match t.locate p with
  | .error e => (.error e, t)
  | .ok place =>
    match t.node? place with
    | none => (.error .notFound, t)
    | some (.file _) => (.error .notAFolder, t)
    | some .folder =>
      let t := t.emptied place
      match t.walk (start p) p.steps with
      | .error _ => (.ok (), t)
      | .ok place =>
        if endsInName p then (.ok (), t.erase place) else (.error .notRemovable, t)

def removeFile (p : DiskPath) : Except DiskError Unit × FileTree :=
  match t.locate p with
  | .error e => (.error e, t)
  | .ok place =>
    match t.node? place with
    | none => (.error .notFound, t)
    | some .folder => (.error .isAFolder, t)
    | some (.file _) => (.ok (), t.erase place)

def listing : List (String × Node) :=
  let inside := t.filter fun e ↦ isBelow workingFolder e.1
  let named := inside.map fun (place, node) ↦
    let path := "/".intercalate (place.drop workingFolder.length)
    match node with
    | .folder => (path ++ "/", node)
    | .file _ => (path, node)
  named.mergeSort fun a b ↦ decide (a.1 ≤ b.1)

end FileTree

instance : DiskStore (StateM FileTree) where
  occupied p := fun t ↦ (t.occupied p, t)
  readText p := fun t ↦ (t.readText p, t)
  makeFolders p := fun t ↦ t.makeFolders p
  writeText p text := fun t ↦ t.write p text.toUTF8
  removeFolder p := fun t ↦ t.removeFolder p

end Reshape
