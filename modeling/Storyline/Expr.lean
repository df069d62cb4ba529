import Storyline.Error

set_option autoImplicit false

/-!
Expressions over variables. Evaluation has no effects; `&&` and `||` look at their right side only if they need it, and `+`
appends to a text whatever stands on its right.
-/

namespace Storyline

inductive Expr where
  | literal (value : Value)
  | var (name : String)
  | not (operand : Expr)
  | neg (operand : Expr)
  | binary (op : BinaryOp) (lhs rhs : Expr)
deriving Inhabited

namespace Expr

def mismatch (op : BinaryOp) (lhs rhs : Value) : Except ExprError Value :=
  .error (.typeMismatch op lhs.type rhs.type)

def add (lhs rhs : Value) : Except ExprError Value :=
  match lhs, rhs with
  | .number a, .number b => .ok (.number (a + b))
  | .text a, b => .ok (.text (a ++ b.display))
  | _, _ => mismatch .add lhs rhs

def arithmetic (op : BinaryOp) (combine : Float → Float → Except ExprError Float) (lhs rhs : Value) :
    Except ExprError Value :=
  match lhs, rhs with
  | .number a, .number b => (combine a b).map Value.number
  | _, _ => mismatch op lhs rhs

def divide (a b : Float) : Except ExprError Float := if b == 0 then .error .divisionByZero else .ok (a / b)

def ordering (lhs rhs : Value) : Option Ordering :=
  match lhs, rhs with
  | .number a, .number b => if a < b then some .lt else if b < a then some .gt else if a == b then some .eq else none
  | .text a, .text b => some (compare a b)
  | _, _ => none

def comparison (op : BinaryOp) (holds : Ordering → Bool) (lhs rhs : Value) : Except ExprError Value :=
  match ordering lhs rhs with
  | some order => .ok (.bool (holds order))
  | none => mismatch op lhs rhs

def apply (op : BinaryOp) (lhs rhs : Value) : Except ExprError Value :=
  match op with
  | .eq => .ok (.bool (lhs.same rhs))
  | .ne => .ok (.bool (!lhs.same rhs))
  | .add => add lhs rhs
  | .sub => arithmetic .sub (fun a b => .ok (a - b)) lhs rhs
  | .mul => arithmetic .mul (fun a b => .ok (a * b)) lhs rhs
  | .div => arithmetic .div divide lhs rhs
  | .lt => comparison .lt Ordering.isLT lhs rhs
  | .le => comparison .le Ordering.isLE lhs rhs
  | .gt => comparison .gt Ordering.isGT lhs rhs
  | .ge => comparison .ge Ordering.isGE lhs rhs
  | .and => .ok (.bool (lhs.truthy && rhs.truthy))
  | .or => .ok (.bool (lhs.truthy || rhs.truthy))

def negate : Value → Except ExprError Value
  | .number n => .ok (.number (-n))
  | other => .error (.negation other.type)

def eval (lookup : String → Option Value) : Expr → Except ExprError Value
  | .literal value => .ok value
  | .var name =>
    match lookup name with
    | some value => .ok value
    | none => .error (.unknownVariable name)
  | .not operand => (eval lookup operand).map fun value => .bool (!value.truthy)
  | .neg operand => (eval lookup operand).bind negate
  | .binary .and lhs rhs => (eval lookup lhs).bind fun left =>
    if left.truthy then (eval lookup rhs).map fun right => .bool right.truthy else .ok (.bool false)
  | .binary .or lhs rhs => (eval lookup lhs).bind fun left =>
    if left.truthy then .ok (.bool true) else (eval lookup rhs).map fun right => .bool right.truthy
  | .binary op lhs rhs => (eval lookup lhs).bind fun left => (eval lookup rhs).bind fun right => apply op left right

def holds (lookup : String → Option Value) (expr : Expr) : Except ExprError Bool :=
  (expr.eval lookup).map Value.truthy

end Expr

end Storyline
