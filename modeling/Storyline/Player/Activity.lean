import Storyline.Event
import Storyline.Executing
import Storyline.Library
import Storyline.Save
import Storyline.Signal

set_option autoImplicit false

/-!
What goes on in a player, as data. An activity is held at the point that it has come to: a main loop between two commands, a
command between two of its effects, a request that waits for the commands in flight. Activities are moved on one by one, so
every way in which they interleave is a sequence of such moves.
-/

namespace Storyline

/-- The layers that were current when the token was handed out: how often everything in flight had been given up, and how
many rendezvous had ended. -/
structure Token where
  full : Nat
  completion : Nat
deriving DecidableEq, Repr

inductive Wait where
  | sleep (token : Token) (what : String) (deadline : Nat) (closing : List String)
  | pause (deadline : Nat)
  | barrier (token : Token)
  | others
  | rendezvous (role : Role)
deriving DecidableEq, Repr

structure Execution where
  id : Nat
  loaded : Loaded
  index : Nat
  command : Command
  lane : Lane
  token : Token
  begun : Bool := false
  effects : List Effect := []
  wait : Option Wait := none

structure Run where
  name : String
  loaded : Loaded
  index : Nat := 0
  full : Nat

structure Trip where
  script : String
  target : Nat
  steps : Nat := 0
  generation : Nat := 0
  wasPlaying : Bool
  wasSkipping : Bool
deriving DecidableEq, Repr

inductive Pilot where
  | loop (generation : Nat)
  | trip (trip : Trip)
deriving DecidableEq, Repr

def Pilot.generation : Pilot → Nat
  | .loop own => own
  | .trip journey => journey.generation

inductive Caller where
  | nobody
  | pilot (pilot : Pilot) (epoch : Nat)
  | run (run : Run)

inductive Sequel where
  | reply
  | listen (inlet : Nat)
  | travel (trip : Trip)
deriving DecidableEq, Repr

inductive Replacement where
  | reset
  | load (save : Save) (rollback : Bool)
deriving DecidableEq, Repr

inductive Request where
  | nothing
  | play (script : String) (label : Option String)
  | resume
  | stop
  | reset
  | load (save : Save)
  | complete (note : Option String)
  | input (signal : Signal)
  | setSkip (enabled : Bool)
  | setAutoPlay (enabled : Bool)
  | setWaiting (waiting : Bool)
  | setVoice (playing : Bool)
  | jump (target : Target)
  | call (target : Target) (spot : Spot)
  | goBack
  | rewindLine (line : UInt32)
  | rewindSpot (spot : Spot)
  | transient (name : String) (playlist : Playlist)
  | transientNamed (name script : String)
  | insert (playlist : Playlist)
  | setVariable (name : String) (value : Value)
  | bind
  | send (signals : List Signal)
  | unbind
  | sleep (millis : Nat)
  | untilStopped

inductive Reply where
  | nothing
  | done
  | flag (value : Bool)
  | count (value : Nat)
  | failed (cause : Error)
deriving DecidableEq, Repr

inductive Activity where
  | asked (request : Request)
  | steering (pilot : Pilot)
  | advancing (pilot : Pilot)
  | awaitingInput (generation : Nat) (auto : Bool) (deadline : Option Nat)
  | running (execution : Execution) (caller : Caller)
  | deferred (run : Run) (deadline : Nat)
  | transient (run : Run)
  | listening (inlet : Nat)
  | completing (role : Role) (sequel : Sequel)
  | draining (replacement : Replacement)
  | sleeping (deadline : Nat)
  | untilStopped
  | finished (reply : Reply)

inductive Notice where
  | spawned (activity : Activity)
  | stateChanged
  | executingChanged
  | rendezvousEnded
  | abandoned
  | completing
  | sent (inlet : Nat)

end Storyline
