import Storyline.Json.Record
import Storyline.Variables

set_option autoImplicit false

/-!
Values, expressions and variables as JSON.
-/

namespace Storyline

namespace Value

def toJson : Value → Json
  | .bool value => .bool value
  | .number value => Json.ofFloat value
  | .text value => .text value

def ofJson? : Json → Option Value
  | .bool value => some (.bool value)
  | .text value => some (.text value)
  | json => json.float?.map Value.number

end Value

namespace Expr

def toJson : Expr → Json
  | .literal value => .object [("literal", value.toJson)]
  | .var name => .object [("var", .text name)]
  | .not operand => .object [("not", operand.toJson)]
  | .neg operand => .object [("neg", operand.toJson)]
  | .binary op lhs rhs =>
    .object [("binary", .object [("op", .text op.symbol), ("lhs", lhs.toJson), ("rhs", rhs.toJson)])]

def ofJson? (place : Json.Place) : Json → Option Expr
  | .object [(name, data)] =>
    match name with
    | "literal" => (Value.ofJson? data).map Expr.literal
    | "var" => data.text?.map Expr.var
    | "not" => (ofJson? place data).map Expr.not
    | "neg" => (ofJson? place data).map Expr.neg
    | "binary" =>
      match read : Json.record? ["op", "lhs", "rhs"] 3 data with
      | none => none
      | some fields =>
        match Json.required? fields "op" (Json.choice? BinaryOp.all BinaryOp.symbol place),
            left : Json.field? fields "lhs", right : Json.field? fields "rhs" with
        | some op, some lhs, some rhs =>
          have := Json.field?_smaller read left
          have := Json.field?_smaller read right
          match ofJson? place lhs, ofJson? place rhs with
          | some lhs, some rhs => some (.binary op lhs rhs)
          | _, _ => none
        | _, _, _ => none
    | _ => none
  | _ => none
termination_by json => sizeOf json
decreasing_by all_goals simp_wf; omega

end Expr

namespace Variables

def toJson (store : Variables) : Json := .object (store.entries.map fun entry => (entry.1, entry.2.toJson))

def ofJson? (json : Json) : Option Variables := (json.table? Value.ofJson?).map ofList

end Variables

end Storyline
