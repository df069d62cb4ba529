import Storyline.Text.Blank
import Storyline.Text.Lowercase

set_option autoImplicit false

/-!
Input from the person in front of the screen.
-/

namespace Storyline

inductive Signal where
  | continue
  | skipHold (pressed : Bool)
  | toggleSkip
  | toggleAutoPlay
  | stop
deriving DecidableEq, Repr

def Signal.ofInput (input : String) : Except String Signal :=
  match Text.lowercase (Text.trim input) with
  | "" | "c" | "continue" => .ok .continue
  | "s" | "skip" => .ok .toggleSkip
  | "a" | "auto" => .ok .toggleAutoPlay
  | "q" | "quit" | "stop" => .ok .stop
  | other => .error ("unknown input: " ++ other)

end Storyline
