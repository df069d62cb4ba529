import Storyline.Json.Token

set_option autoImplicit false

/-!
JSON values from lexemes, with the open arrays and objects on an explicit stack. Parts nested deeper than `limit` are
well formed but unreadable.
-/

namespace Storyline.Json

namespace Reader

inductive Frame where
  | array (items : List Json)
  | object (fields : List (Option String × Json)) (name : Option String)

inductive Expect where
  | value
  | valueOrClose
  | name
  | nameOrClose
  | colon
  | commaOrClose
  | nothing

structure State where
  frames : List Frame := []
  expect : Expect := .value
  result : Option Json := none

def place (frames : List Frame) (value : Json) : State :=
  match frames with
  | [] => ⟨[], .nothing, some value⟩
  | .array items :: outer => ⟨.array (value :: items) :: outer, .commaOrClose, none⟩
  | .object fields name :: outer => ⟨.object ((name, value) :: fields) none :: outer, .commaOrClose, none⟩

def named (fields : List (Option String × Json)) : Option (List (String × Json)) :=
  fields.reverse.mapM fun field => field.1.map fun name => (name, field.2)

def bounded (limit : Nat) (outer : List Frame) (value : Json) : Json :=
  if limit ≤ outer.length then .unreadable else value

def closeArray (limit : Nat) (frames : List Frame) : Option State :=
  match frames with
  | .array items :: outer => some (place outer (bounded limit outer (.array items.reverse)))
  | _ => none

def closeObject (limit : Nat) (frames : List Frame) : Option State :=
  match frames with
  | .object fields _ :: outer =>
    some (place outer (bounded limit outer (((named fields).map Json.object).getD .unreadable)))
  | _ => none

def beginValue (frames : List Frame) : Token → Option State
  | .openArray => some ⟨.array [] :: frames, .valueOrClose, none⟩
  | .openObject => some ⟨.object [] none :: frames, .nameOrClose, none⟩
  | .scalar value => some (place frames value)
  | .text value => some (place frames ((value.map Json.text).getD .unreadable))
  | _ => none

def beginName (frames : List Frame) : Token → Option State
  | .text name =>
    match frames with
    | .object fields _ :: outer => some ⟨.object fields name :: outer, .colon, none⟩
    | _ => none
  | _ => none

def step (limit : Nat) (state : State) (token : Token) : Option State :=
  match state.expect, token with
  | .value, token => beginValue state.frames token
  | .valueOrClose, .closeArray => closeArray limit state.frames
  | .valueOrClose, token => beginValue state.frames token
  | .name, token => beginName state.frames token
  | .nameOrClose, .closeObject => closeObject limit state.frames
  | .nameOrClose, token => beginName state.frames token
  | .colon, .colon => some { state with expect := .value }
  | .colon, _ => none
  | .commaOrClose, .comma =>
    match state.frames with
    | .array _ :: _ => some { state with expect := .value }
    | .object _ _ :: _ => some { state with expect := .name }
    | [] => none
  | .commaOrClose, .closeArray => closeArray limit state.frames
  | .commaOrClose, .closeObject => closeObject limit state.frames
  | .commaOrClose, _ => none
  | .nothing, _ => none

end Reader

def nestingLimit : Nat := 127

def parse (text : String) (limit : Nat := nestingLimit) : Option Json :=
  (Token.scan text).bind fun tokens => (tokens.foldlM (Reader.step limit) {}).bind Reader.State.result

end Storyline.Json
