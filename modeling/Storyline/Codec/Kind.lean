import Storyline.Codec.Expr
import Storyline.Command

set_option autoImplicit false

/-!
Kinds of commands as JSON: objects whose field `command` names the kind. Fields that are absent take their defaults, and an
absent author, script or label is not written at all. Kinds that an application adds have no such form.
-/

namespace Storyline

def Lane.ofJson? : Json.Place → Json → Option Lane := Json.choice? [Lane.main, Lane.transient] Lane.name

def present (name : String) : Option String → List (String × Json)
  | none => []
  | some value => [(name, .text value)]

def TextLine.fields (line : TextLine) : List (String × Json) :=
  present "author" line.author ++
    [("text", .text line.text), ("reveal_ms", .integer line.revealMillis.toNat), ("wait_input", .bool line.waitInput)]

def TextLine.ofJson? (json : Json) : Option TextLine := do
  let fields ← json.record? ["author", "text", "reveal_ms", "wait_input"] 2
  let author ← Json.defaulted? fields "author" none (Json.optional? Json.text?)
  let text ← Json.required? fields "text" Json.text?
  let revealMillis ← Json.defaulted? fields "reveal_ms" 0 Json.uint64?
  let waitInput ← Json.defaulted? fields "wait_input" true Json.bool?
  return ⟨author, text, revealMillis, waitInput⟩

def Target.fields (target : Target) : List (String × Json) :=
  present "script" target.script ++ present "label" target.label

def Target.toJson (target : Target) : Json := .object target.fields

def Target.ofJson? (json : Json) : Option Target := do
  let fields ← json.record? ["script", "label"] 0
  let script ← Json.defaulted? fields "script" none (Json.optional? Json.text?)
  let label ← Json.defaulted? fields "label" none (Json.optional? Json.text?)
  return ⟨script, label⟩

namespace Kind

def parameters? : Kind → Option (List (String × Json))
  | .set name op value => some [("var", .text name), ("op", .text op.symbol), ("value", value.toJson)]
  | .print line => some line.fields
  | .wait millis => some [("millis", .integer millis.toNat)]
  | .label name => some [("name", .text name)]
  | .goto target => some target.fields
  | .gosub target => some target.fields
  | .branch condition => some [("cond", condition.toJson)]
  | .elseBranch condition => some [("cond", condition.toJson)]
  | .loop condition => some [("cond", condition.toJson)]
  | .random weights => some [("weights", .array (weights.map fun weight => Json.ofFloat (Decimal.widen weight)))]
  | .delay millis => some [("millis", .integer millis.toNat)]
  | .transition millis => some [("millis", .integer millis.toNat)]
  | .waitInput | .ret | .stop | .otherwise | .endBranch | .group | .await => some []
  | .custom _ => none

def toJson? (kind : Kind) : Option Json :=
  kind.parameters?.map fun parameters => .object (("command", .text kind.name) :: parameters)

def unit? (kind : Kind) (json : Json) : Option Kind := (json.record? [] 0).map fun _ => kind

def ofCondition? (make : Expr → Kind) (json : Json) : Option Kind := do
  let fields ← json.record? ["cond"] 1
  let condition ← Json.required? fields "cond" (Expr.ofJson? .tagged)
  return make condition

def ofMillis? (make : UInt64 → Kind) (json : Json) : Option Kind := do
  let fields ← json.record? ["millis"] 1
  let millis ← Json.required? fields "millis" Json.uint64?
  return make millis

def ofParameters? (name : String) (json : Json) : Option Kind :=
  match name with
  | "set" => do
    let fields ← json.record? ["var", "op", "value"] 3
    let name ← Json.required? fields "var" Json.text?
    let op ← Json.defaulted? fields "op" .assign (Json.choice? AssignOp.all AssignOp.symbol .tagged)
    let value ← Json.required? fields "value" (Expr.ofJson? .tagged)
    return .set name op value
  | "print" => (TextLine.ofJson? json).map Kind.print
  | "wait" => ofMillis? .wait json
  | "wait_input" => unit? .waitInput json
  | "label" => do
    let fields ← json.record? ["name"] 1
    let name ← Json.required? fields "name" Json.text?
    return .label name
  | "goto" => (Target.ofJson? json).map Kind.goto
  | "gosub" => (Target.ofJson? json).map Kind.gosub
  | "return" => unit? .ret json
  | "stop" => unit? .stop json
  | "if" => ofCondition? .branch json
  | "else_if" => ofCondition? .elseBranch json
  | "else" => unit? .otherwise json
  | "end_if" => unit? .endBranch json
  | "while" => ofCondition? .loop json
  | "random" => do
    let fields ← json.record? ["weights"] 0
    let weights ← Json.defaulted? fields "weights" [] (Json.list? Json.float32?)
    return .random weights
  | "group" => unit? .group json
  | "delay" => ofMillis? .delay json
  | "await" => unit? .await json
  | "transition" => do
    let fields ← json.record? ["millis"] 0
    let millis ← Json.defaulted? fields "millis" 0 Json.uint64?
    return .transition millis
  | _ => none

def ofJson? (json : Json) : Option Kind := (json.tagged? "command").bind fun given => ofParameters? given.1 given.2

end Kind

end Storyline
