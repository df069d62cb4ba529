set_option autoImplicit false

/-!
Addresses inside scripts. A spot names a script, a source line and the place of a command within that line; spots are
ordered by script, then line, then place.
-/

namespace Storyline

structure Spot where
  script : String := ""
  line : UInt32 := 0
  inline : UInt32 := 0
deriving DecidableEq, Repr, Inhabited

namespace Spot

def text (spot : Spot) : String := spot.script ++ ":" ++ toString spot.line.toNat ++ "." ++ toString spot.inline.toNat

def compare (a b : Spot) : Ordering :=
  (Ord.compare a.script b.script).then ((Ord.compare a.line b.line).then (Ord.compare a.inline b.inline))

def le (a b : Spot) : Bool := a.compare b ≠ .gt

def isLine (spot : Spot) (script : String) (line : UInt32) : Bool := spot.script = script && spot.line = line

end Spot

end Storyline
