import Reshape.CommandLine.Program

namespace Reshape

def attempt {α : Type} (action : IO α) : IO (Except DiskError α) := do
  match ← action.toBaseIO with
  | .ok v => return .ok v
  | .error e => return .error (.other (toString e))

instance : DiskStore IO where
  occupied p := (System.mkFilePath [p.text]).pathExists
  readText p := attempt (IO.FS.readFile p.text)
  makeFolders p := attempt (if p.text.isEmpty then pure () else IO.FS.createDirAll p.text)
  writeText p text := attempt (IO.FS.writeFile p.text text)
  removeFolder p := attempt (IO.FS.removeDirAll p.text)

def readStandardInput : IO String := do
  let stdin ← IO.getStdin
  let mut text := ""
  repeat
    let line ← stdin.getLine
    if line.isEmpty then break
    text := text ++ line
  return text

def wording : Wording where
  disk e := e.message
  json e := match e with
    | .fault .truncated => "unexpected end of JSON"
    | .fault .malformed => "malformed JSON"
    | .misfit m => m.message

end Reshape

open Reshape in
def main (args : List String) : IO UInt32 := do
  let outcome ← runProgram wording args (attempt readStandardInput)
  (← IO.getStdout).putStr outcome.output
  (← IO.getStderr).putStr outcome.errors
  return outcome.code
