import Reshape.Generation.Run
import Reshape.Record.Json

namespace Reshape

/-- How failures are worded that arise below the commands: those of files and those of JSON
texts. -/
structure Wording where
  disk : DiskError → String
  json : ReadError → String

abbrev Chain := List String

namespace Chain

def numbered : Nat → List String → String
  | _, [] => ""
  | n, cause :: rest => s!"\n    {n}: {cause}" ++ numbered (n + 1) rest

def render : Chain → String
  | [] => ""
  | [message] => s!"Error: {message}\n"
  | [message, cause] => s!"Error: {message}\n\nCaused by:\n    {cause}\n"
  | message :: causes => s!"Error: {message}\n\nCaused by:" ++ numbered 0 causes ++ "\n"

end Chain

variable (w : Wording)

def DiskError.chain (e : DiskError) : Chain := ["IO error: " ++ w.disk e, w.disk e]

def SchemaFileError.chain : SchemaFileError → Chain
  | .unreadable e => [e.message]
  | .absent path => ["Schema file not found: " ++ path.text]
  | .present path => ["Schema file already exists: " ++ path.text]
  | .disk e => e.chain w

def Conflict.text (c : Conflict) : String := c.path.text ++ " (group '" ++ c.group ++ "')"

def Collision.message (c : Collision) : String :=
  "Groups '" ++ c.firstGroup ++ "' and '" ++ c.group ++ "' would both write " ++ c.path.text

def GenerationError.chain : GenerationError → Chain
  | .disk e => e.chain w
  | .options path e => ["Invalid config file " ++ path.text ++ ": " ++ w.json e, w.json e]
  | .optionsPresent path => ["Config file already exists: " ++ path.text]
  | .outputPresent conflicts =>
    ["Output already exists: " ++ ", ".intercalate (conflicts.map Conflict.text)]
  | .collision c => [c.message]
  | .schema e => ("Schema error: " ++ (e.chain w).headD "") :: e.chain w

def noArrays : String := "data did not match any variant of untagged enum Value"

def RecordError.chain : RecordError → Chain
  | .notARecord found => ["Expected a record, found " ++ found]
  | .unreadable f => ["Invalid record JSON: " ++ w.json (.fault f), w.json (.fault f)]
  | .arrayInside => ["Invalid record JSON: " ++ noArrays, noArrays]

end Reshape
