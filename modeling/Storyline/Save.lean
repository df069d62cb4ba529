import Storyline.Variables

set_option autoImplicit false

/-!
What a player writes down to come back to a place: its own save, and the snapshot of a whole game at one spot.
-/

namespace Storyline

structure Save where
  playing : Bool := false
  executed : Bool := false
  waiting : Bool := false
  returns : List Spot := []
  spot : Option Spot := none
deriving DecidableEq, Repr

structure Snapshot where
  id : Nat := 0
  spot : Spot
  player : Save
  store : Variables
  permitted : Bool := false

end Storyline
