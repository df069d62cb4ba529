import Storyline.Expr

set_option autoImplicit false

/-!
The variables of a story, kept in order of their names and each name once, so that two stores with the same variables are
equal.
-/

namespace Storyline

inductive AssignOp where
  | assign
  | add
  | sub
  | mul
  | div
deriving DecidableEq, Repr

def AssignOp.symbol : AssignOp → String
  | .assign => "="
  | .add => "+="
  | .sub => "-="
  | .mul => "*="
  | .div => "/="

def AssignOp.all : List AssignOp := [.assign, .add, .sub, .mul, .div]

def AssignOp.ofSymbol? (symbol : String) : Option AssignOp := AssignOp.all.find? fun op => op.symbol = symbol

def AssignOp.binary? : AssignOp → Option BinaryOp
  | .assign => none
  | .add => some .add
  | .sub => some .sub
  | .mul => some .mul
  | .div => some .div

structure Variables where
  entries : List (String × Value) := []
deriving Inhabited

namespace Variables

def empty : Variables := {}

def insertEntry (name : String) (value : Value) : List (String × Value) → List (String × Value)
  | [] => [(name, value)]
  | entry :: entries =>
    if name < entry.1 then (name, value) :: entry :: entries
    else if name = entry.1 then (name, value) :: entries
    else entry :: insertEntry name value entries

def get? (store : Variables) (name : String) : Option Value :=
  (store.entries.find? fun entry => entry.1 = name).map Prod.snd

def set (store : Variables) (name : String) (value : Value) : Variables := ⟨insertEntry name value store.entries⟩

def ofList (entries : List (String × Value)) : Variables :=
  entries.foldl (fun store entry => store.set entry.1 entry.2) empty

def size (store : Variables) : Nat := store.entries.length

def assigned (store : Variables) (name : String) (op : AssignOp) (value : Expr) : Except ExprError Value :=
  (value.eval store.get?).bind fun right =>
    match op.binary? with
    | none => .ok right
    | some op =>
      match store.get? name with
      | none => .error (.unknownVariable name)
      | some left => Expr.apply op left right

def assign (store : Variables) (name : String) (op : AssignOp) (value : Expr) : Except ExprError (Value × Variables) :=
  (store.assigned name op value).map fun result => (result, store.set name result)

end Variables

end Storyline
