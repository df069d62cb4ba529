import Storyline.Command

set_option autoImplicit false

/-!
What a player tells its observers.
-/

namespace Storyline

inductive StopReason where
  | requested
  | endOfScript
  | structural
  | reset
deriving DecidableEq, Repr

def StopReason.name : StopReason → String
  | .requested => "requested"
  | .endOfScript => "end_of_script"
  | .structural => "structural"
  | .reset => "reset"

def StopReason.all : List StopReason := [.requested, .endOfScript, .structural, .reset]

inductive Event where
  | started (spot : Spot)
  | stopped (spot : Option Spot) (reason : StopReason)
  | commandExecuting (spot : Spot) (command : String) (lane : Lane)
  | commandExecuted (spot : Spot) (command : String) (lane : Lane)
  | waitingForInput (waiting : Bool)
  | skipChanged (enabled : Bool)
  | autoPlayChanged (enabled : Bool)
  | completed
  | transientFinished (script : String)
deriving DecidableEq, Repr

def Event.name : Event → String
  | .started _ => "started"
  | .stopped .. => "stopped"
  | .commandExecuting .. => "command_executing"
  | .commandExecuted .. => "command_executed"
  | .waitingForInput _ => "waiting_for_input"
  | .skipChanged _ => "skip_changed"
  | .autoPlayChanged _ => "auto_play_changed"
  | .completed => "completed"
  | .transientFinished _ => "transient_finished"

def powerFrom (count : Nat) : Nat → Nat → Nat
  | 0, power => power
  | doublings + 1, power => if count ≤ power then power else powerFrom count doublings (2 * power)

def backlogSize (capacity : Nat) : Nat := powerFrom capacity capacity 1

def Event.backlog (capacity : Nat) (unread : List Event) : Nat × List Event :=
  let lost := unread.length - backlogSize capacity
  (lost, unread.drop lost)

end Storyline
