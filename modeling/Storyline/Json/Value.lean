set_option autoImplicit false

/-!
JSON values. An object keeps its fields in order and with repetitions, because readers of records refuse a field given
twice. `unreadable` marks a part that is well formed but stands for no value: a number out of range, a text with half a
surrogate pair, or a part nested too deeply. A reader that skips the part never notices it.
-/

namespace Storyline

inductive Json where
  | null
  | bool (value : Bool)
  | integer (value : Int)
  | float (value : Float)
  | text (value : String)
  | array (items : List Json)
  | object (fields : List (String × Json))
  | unreadable
deriving Inhabited

namespace Json

mutual
def readable : Json → Bool
  | .unreadable => false
  | .array items => readableItems items
  | .object fields => readableFields fields
  | _ => true
def readableItems : List Json → Bool
  | [] => true
  | item :: items => readable item && readableItems items
def readableFields : List (String × Json) → Bool
  | [] => true
  | (_, value) :: fields => readable value && readableFields fields
end

def putField (name : String) (value : Json) (fields : List (String × Json)) : List (String × Json) :=
  fields.filter (fun field => field.1 ≠ name) ++ [(name, value)]

mutual
def distinct : Json → Json
  | .array items => .array (distinctItems items)
  | .object fields => .object (distinctFields [] fields)
  | other => other
def distinctItems : List Json → List Json
  | [] => []
  | item :: items => distinct item :: distinctItems items
def distinctFields : List (String × Json) → List (String × Json) → List (String × Json)
  | done, [] => done
  | done, (name, value) :: fields => distinctFields (putField name (distinct value) done) fields
end

def ofFloat (x : Float) : Json := if x.isFinite then .float x else .null

def ofOption {α : Type} (encode : α → Json) : Option α → Json
  | none => .null
  | some value => encode value

end Json

end Storyline
