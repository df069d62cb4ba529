import Storyline.Spot
import Storyline.Value

set_option autoImplicit false

/-!
Everything that can go wrong, by cause. `message` words a cause, `fatal` singles out malformed nesting, which halts
playback, and `cancelled` marks a command that was told to give up.
-/

namespace Storyline

inductive BinaryOp where
  | add
  | sub
  | mul
  | div
  | eq
  | ne
  | lt
  | le
  | gt
  | ge
  | and
  | or
deriving DecidableEq, Repr

def BinaryOp.symbol : BinaryOp → String
  | .add => "+"
  | .sub => "-"
  | .mul => "*"
  | .div => "/"
  | .eq => "=="
  | .ne => "!="
  | .lt => "<"
  | .le => "<="
  | .gt => ">"
  | .ge => ">="
  | .and => "&&"
  | .or => "||"

def BinaryOp.all : List BinaryOp := [.add, .sub, .mul, .div, .eq, .ne, .lt, .le, .gt, .ge, .and, .or]

def BinaryOp.ofSymbol? (symbol : String) : Option BinaryOp := BinaryOp.all.find? fun op => op.symbol = symbol

inductive ExprError where
  | unknownVariable (name : String)
  | typeMismatch (op : BinaryOp) (lhs rhs : ValueType)
  | negation (operand : ValueType)
  | divisionByZero
deriving DecidableEq, Repr

def ExprError.message : ExprError → String
  | .unknownVariable name => "unknown variable: " ++ name
  | .typeMismatch op lhs rhs =>
    "type mismatch: cannot apply " ++ op.symbol ++ " to " ++ lhs.name ++ " and " ++ rhs.name
  | .negation operand => "type mismatch: cannot apply - to " ++ operand.name ++ " and none"
  | .divisionByZero => "division by zero"

inductive StructuralError where
  | indentJump (spot : Spot) (before after : Nat)
  | notAHost (spot : Spot)
  | indentedStart (spot : Spot)
  | hostNotFound (spot : Spot)
  | emptyBlock (spot : Spot)
  | orphanBranch (spot : Spot)
  | deferredNavigation (spot : Spot)
deriving DecidableEq, Repr

def StructuralError.spot : StructuralError → Spot
  | .indentJump spot _ _ => spot
  | .notAHost spot => spot
  | .indentedStart spot => spot
  | .hostNotFound spot => spot
  | .emptyBlock spot => spot
  | .orphanBranch spot => spot
  | .deferredNavigation spot => spot

def StructuralError.message : StructuralError → String
  | .indentJump spot before after =>
    "indent jumps from " ++ toString before ++ " to " ++ toString after ++ " at " ++ spot.text
  | .notAHost spot => "command at " ++ spot.text ++ " does not host nested commands"
  | .indentedStart spot => "script starts indented at " ++ spot.text
  | .hostNotFound spot => "host not found for nested command at " ++ spot.text
  | .emptyBlock spot => "conditional block does not terminate with a playable command at " ++ spot.text
  | .orphanBranch spot => "branch continuation without an opening if at " ++ spot.text
  | .deferredNavigation spot => "cannot navigate into deferred block body at " ++ spot.text

inductive ScriptError where
  | notFound (name : String)
  | labelNotFound (script label : String)
  | spotNotFound (spot : Spot)
  | empty (name : String)
deriving DecidableEq, Repr

def ScriptError.message : ScriptError → String
  | .notFound name => "script not found: " ++ name
  | .labelNotFound script label => "label `" ++ label ++ "` not found in script `" ++ script ++ "`"
  | .spotNotFound spot => "spot not found: " ++ spot.text
  | .empty name => "script `" ++ name ++ "` is empty"

inductive FileError where
  | missing
  | isDirectory
  | notDirectory
  | exists
  | notText
deriving DecidableEq, Repr

def FileError.message : FileError → String
  | .missing => "No such file or directory (os error 2)"
  | .isDirectory => "Is a directory (os error 21)"
  | .notDirectory => "Not a directory (os error 20)"
  | .exists => "File exists (os error 17)"
  | .notText => "stream did not contain valid UTF-8"

inductive ConfigError where
  | read (path : String) (cause : FileError)
  | parse
  | invalid (what : String)
deriving DecidableEq, Repr

def ConfigError.message : ConfigError → String
  | .read path cause => "failed to read config " ++ path ++ ": " ++ cause.message
  | .parse => "failed to parse config"
  | .invalid what => "invalid config value: " ++ what

inductive Error where
  | structural (cause : StructuralError)
  | expr (cause : ExprError)
  | script (cause : ScriptError)
  | config (cause : ConfigError)
  | file (cause : FileError)
  | json
  | cancelled (what : String)
  | command (what : String)
deriving DecidableEq, Repr

namespace Error

def message : Error → String
  | .structural cause => "Structural error: " ++ cause.message
  | .expr cause => "Expression error: " ++ cause.message
  | .script cause => "Script error: " ++ cause.message
  | .config cause => "Config error: " ++ cause.message
  | .file cause => "I/O error: " ++ cause.message
  | .json => "JSON error"
  | .cancelled what => "Operation cancelled: " ++ what
  | .command what => "Command failed: " ++ what

/-- Malformed nesting halts playback; every other failure is survived. -/
def fatal : Error → Bool
  | .structural _ => true
  | _ => false

def isCancelled : Error → Bool
  | .cancelled _ => true
  | _ => false

end Error

end Storyline
