import Storyline.Decimal.Text

set_option autoImplicit false

/-!
Values of variables and expressions: truth values, double precision numbers and texts. False, zero and the empty text count
as false in conditions.
-/

namespace Storyline

inductive Value where
  | bool (value : Bool)
  | number (value : Float)
  | text (value : String)
deriving Inhabited

inductive ValueType where
  | bool
  | number
  | text
deriving DecidableEq, Repr

def ValueType.name : ValueType → String
  | .bool => "bool"
  | .number => "number"
  | .text => "text"

namespace Value

def type : Value → ValueType
  | .bool _ => .bool
  | .number _ => .number
  | .text _ => .text

def truthy : Value → Bool
  | .bool b => b
  | .number n => n != 0
  | .text s => s ≠ ""

def display : Value → String
  | .bool b => if b then "true" else "false"
  | .number n => numberText n
  | .text s => s

/-- Equality of the language: numbers compare as numbers, and values of different types are never equal. -/
def same : Value → Value → Bool
  | .bool a, .bool b => a == b
  | .number a, .number b => a == b
  | .text a, .text b => a == b
  | _, _ => false

end Value

end Storyline
