import ConfigSchema.Json.Basic
import ConfigSchema.Json.Token

/-! Reading a JSON text. The reader is a machine over the words of the text with a stack of the arrays and
objects that are still open; how many may be open at once is limited. -/

namespace ConfigSchema.Json

/-- The greatest number of arrays and objects that may be open at once. -/
def depthLimit : Nat := 127

namespace Reader

inductive Frame where
  | item (before : List Json)
  | member (before : List (String × Json)) (name : String)

inductive State where
  /-- A value must follow; just after an opening bracket the array may also end. -/
  | value (frames : List Frame) (mayClose : Bool)
  /-- A member's name must follow; just after an opening brace the object may also end. -/
  | name (before : List (String × Json)) (frames : List Frame) (mayClose : Bool)
  | colon (before : List (String × Json)) (name : String) (frames : List Frame)
  /-- A value is complete. -/
  | after (value : Json) (frames : List Frame)

def close? (token : Token) (value : Json) : List Frame → Option State
  | [] => none
  | .item before :: rest =>
    match token with
    | .comma => some (.value (.item (value :: before) :: rest) false)
    | .closeArray => some (.after (.array (value :: before).reverse) rest)
    | _ => none
  | .member before name :: rest =>
    match token with
    | .comma => some (.name (Keyed.put name value before) rest false)
    | .closeObject => some (.after (.object (Keyed.put name value before)) rest)
    | _ => none

def step? (limit : Nat) : State → Token → Option State
  | .value frames mayClose, token =>
    match token with
    | .null => some (.after .null frames)
    | .bool b => some (.after (.bool b) frames)
    | .number n => some (.after (.number n) frames)
    | .string s => some (.after (.string s) frames)
    | .openArray => if frames.length < limit then some (.value (.item [] :: frames) true) else none
    | .openObject => if frames.length < limit then some (.name [] frames true) else none
    | .closeArray =>
      match mayClose, frames with
      | true, .item _ :: rest => some (.after (.array []) rest)
      | _, _ => none
    | _ => none
  | .name before frames mayClose, token =>
    match token with
    | .string name => some (.colon before name frames)
    | .closeObject => if mayClose then some (.after (.object before) frames) else none
    | _ => none
  | .colon before name frames, token =>
    if token = .colon then some (.value (.member before name :: frames) false) else none
  | .after value frames, token => close? token value frames

def run (limit : Nat) (state : State) : List Token → Option Json
  | [] =>
    match state with
    | .after value [] => some value
    | _ => none
  | token :: rest => (step? limit state token).bind fun next => run limit next rest

end Reader

def readWithin (limit : Nat) (text : String) : Option Json :=
  (Token.scan text.toList).bind (Reader.run limit (.value [] false))

def read (text : String) : Option Json := readWithin depthLimit text

end ConfigSchema.Json
