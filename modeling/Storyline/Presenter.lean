import Storyline.Command

set_option autoImplicit false

/-!
Presenters show lines and blend pictures. A presenter is a description of what appears on the stage and how long it takes;
the player does the waiting.
-/

namespace Storyline

structure Cue where
  opening : List String := []
  failure : Option Error := none
  pause : Option (String × UInt64) := none
  closing : List String := []

/-- A picture is captured without a token, so nothing shortens the pause. -/
structure Capture where
  opening : List String := []
  failure : Option Error := none
  pause : Option UInt64 := none

instance : Coe (List String) Capture := ⟨fun opening => { opening }⟩

structure Presenter where
  say : TextLine → UInt64 → Cue
  capture : Capture
  blend : UInt64 → Bool → Cue

def Presenter.silent : Presenter where
  say _ reveal := if reveal = 0 then {} else { pause := some ("reveal", reveal) }
  capture := {}
  blend millis _ := { pause := some ("transition", millis) }

end Storyline
