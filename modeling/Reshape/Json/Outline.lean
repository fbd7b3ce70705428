import Reshape.Json.Token

namespace Reshape

/-- The shape of a text as far as it is JSON. Every text has one: a fault sits at the place
where the text stops being JSON, and a row of items or members without a fault was closed. -/
inductive Outline where
  | null
  | boolean (b : Bool)
  | number (t : NumberText)
  | string (s : Spelling)
  | array (items : List Outline) (fault : Option Fault)
  | object (members : List (Spelling × Outline)) (fault : Option Fault)
  /-- A number that breaks off at the end of the text. -/
  | cutNumber
  | broken (f : Fault)

namespace Outline

/-- An array or object that is still open, latest entry first. A member waits for its value. -/
inductive Frame where
  | array (items : List Outline)
  | object (members : List (Spelling × Outline))
  | member (members : List (Spelling × Outline)) (key : Spelling)

inductive Expected where
  | value
  | itemOrClose
  | keyOrClose
  | key
  | colon
  | commaOrClose

inductive State where
  | reading (expected : Expected) (frames : List Frame)
  | finished (outline : Outline)

def Frame.hold (v : Outline) : Frame → Frame
  | .array items => .array (v :: items)
  | .object members => .object members
  | .member members key => .object ((key, v) :: members)

def Frame.close (fault : Option Fault) : Frame → Outline
  | .array items => .array items.reverse fault
  | .object members => .object members.reverse fault
  | .member members key =>
    .object ((key, .broken (fault.getD .malformed)) :: members).reverse fault

def settle (v : Outline) : List Frame → State
  | [] => .finished v
  | frame :: rest => .reading .commaOrClose (frame.hold v :: rest)

def closeInner : List Frame → State
  | [] => .finished (.broken .malformed)
  | frame :: rest => settle (frame.close none) rest

def collapse (v : Outline) : List Frame → Outline
  | [] => v
  | frame :: rest => collapse ((frame.hold v).close (some .malformed)) rest

def abandon (f : Fault) : Expected → List Frame → Outline
  | .value, frames => collapse (.broken f) frames
  | _, [] => .broken f
  | _, frame :: rest => collapse (frame.close (some f)) rest

def beginValue (frames : List Frame) : Token → State
  | .mark .openBracket => .reading .itemOrClose (.array [] :: frames)
  | .mark .openBrace => .reading .keyOrClose (.object [] :: frames)
  | .mark _ => .finished (abandon .malformed .value frames)
  | .null => settle .null frames
  | .boolean b => settle (.boolean b) frames
  | .number t => settle (.number t) frames
  | .string s => settle (.string s) frames
  | .cutNumber => .finished (collapse .cutNumber frames)
  | .fault f => .finished (abandon f .value frames)

def step (t : Token) : Expected → List Frame → State
  | .value, frames => beginValue frames t
  | .itemOrClose, frames =>
    match t with
    | .mark .closeBracket => closeInner frames
    | t => beginValue frames t
  | .keyOrClose, frames =>
    match t, frames with
    | .mark .closeBrace, frames => closeInner frames
    | .string key, .object members :: rest => .reading .colon (.member members key :: rest)
    | _, frames => .finished (abandon .malformed .keyOrClose frames)
  | .key, frames =>
    match t, frames with
    | .string key, .object members :: rest => .reading .colon (.member members key :: rest)
    | _, frames => .finished (abandon .malformed .key frames)
  | .colon, frames =>
    match t with
    | .mark .colon => .reading .value frames
    | _ => .finished (abandon .malformed .colon frames)
  | .commaOrClose, frames =>
    match t, frames with
    | .mark .comma, .array items :: rest => .reading .value (.array items :: rest)
    | .mark .comma, .object members :: rest => .reading .key (.object members :: rest)
    | .mark .closeBracket, .array items :: rest => closeInner (.array items :: rest)
    | .mark .closeBrace, .object members :: rest => closeInner (.object members :: rest)
    | _, frames => .finished (abandon .malformed .commaOrClose frames)

def run : State → List Token → Outline × List Token
  | .finished v, ts => (v, ts)
  | .reading expected frames, [] => (abandon .truncated expected frames, [])
  | .reading expected frames, t :: ts => run (step t expected frames) ts

def ofText (s : String) : Outline × Bool :=
  let (v, rest) := run (.reading .value []) (Token.all s.toList)
  (v, !rest.isEmpty)

end Outline

end Reshape
