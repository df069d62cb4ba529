import Storyline.Config
import Storyline.History
import Storyline.Interrupt
import Storyline.Navigation
import Storyline.Played
import Storyline.Player.Activity
import Storyline.Presenter

set_option autoImplicit false

/-!
The state of a player, and the small changes that everything else is made of: announcing an event, leaving a note, telling
the other activities.
-/

namespace Storyline

structure Playback where
  playing : Bool := false
  /-- Grows with every main loop and trip; an older pilot no longer moves the caret. -/
  generation : Nat := 0
  loaded : Option Loaded := none
  index : Nat := 0
  executed : Bool := false
  guardPassed : Bool := true
  epoch : Nat := 0
  mode : Mode := {}
  returns : List Spot := []
  masked : Bool := false
  pending : Option Snapshot := none

namespace Playback

def isLive (playback : Playback) (generation : Nat) : Bool := playback.playing && playback.generation = generation

def command? (playback : Playback) : Option Command :=
  playback.loaded.bind fun loaded => loaded.playlist.command? playback.index

def spot? (playback : Playback) : Option Spot := playback.command?.map Command.spot

def script? (playback : Playback) : Option String := playback.loaded.map fun loaded => loaded.playlist.script

def setCaret (playback : Playback) (loaded : Loaded) (index : Nat) (executed : Bool) : Playback :=
  { playback with
    loaded := some loaded
    index := index
    executed := executed
    guardPassed := true
    epoch := playback.epoch + 1 }

def save (playback : Playback) : Save where
  playing := playback.playing
  executed := playback.executed
  waiting := playback.mode.waiting
  returns := playback.returns
  spot := playback.spot?

def clear (playback : Playback) : Playback where
  generation := playback.generation + 1
  epoch := playback.epoch + 1
  mode := playback.mode.clear

end Playback

structure Inlet where
  id : Nat
  queue : List Signal := []
  isOpen : Bool := true
deriving DecidableEq, Repr

structure LogEntry where
  level : LogLevel
  text : String
deriving DecidableEq, Repr

structure Player where
  config : PlayerConfig := {}
  rollbackConfig : RollbackConfig := {}
  presenter : Presenter := .silent
  library : Library := {}
  store : Variables := {}
  history : History := .ofCapacity 128
  played : Played := {}
  draws : Draws
  executing : Executing := {}
  rendezvous : Rendezvous String := {}
  abandoned : Nat := 0
  playback : Playback := {}
  /-- Hosts due for their return visit, by the handle of their playlist. -/
  raised : List (Nat × Nat) := []
  inlets : List Inlet := []
  voice : Bool := false
  clock : Nat := 0
  /-- How much longer every pause takes: nothing on an exact clock, one on a clock that only knows whole milliseconds. -/
  overrun : Nat := 0
  events : List Event := []
  log : List LogEntry := []
  stage : List (Nat × String) := []
  outbox : List Notice := []

namespace Player

def publish (player : Player) (event : Event) : Player := { player with events := event :: player.events }

def tell (player : Player) (notice : Notice) : Player := { player with outbox := notice :: player.outbox }

def note (player : Player) (text : String) : Player := { player with stage := (player.clock, text) :: player.stage }

def notes (player : Player) (lines : List String) : Player := lines.foldl note player

def logged (player : Player) (level : LogLevel) (text : String) : Player :=
  { player with log := ⟨level, text⟩ :: player.log }

def warn (player : Player) (text : String) : Player := player.logged .warn text

def report (player : Player) (text : String) : Player := player.logged .error text

def after (player : Player) (millis : UInt64) : Nat := player.clock + millis.toNat + player.overrun

/-! ### Layers -/

def token (player : Player) : Token := ⟨player.abandoned, player.rendezvous.signal⟩

def isAbandoned (player : Player) (full : Nat) : Bool := decide (full < player.abandoned)

def isCompleting (player : Player) (token : Token) : Bool := player.rendezvous.raised token.completion

def isCancelled (player : Player) (token : Token) : Bool := player.isAbandoned token.full || player.isCompleting token

def interrupt? (player : Player) (token : Token) : Option Interrupt :=
  Interrupt.of? (player.isAbandoned token.full) (player.isCompleting token)

def abandon (player : Player) : Player := { player with abandoned := player.abandoned + 1 }.tell .abandoned

/-! ### Navigation -/

def trail (player : Player) (loaded : Loaded) : Trail where
  raised := (player.raised.filter fun flag => flag.1 = loaded.handle).map Prod.snd
  draws := player.draws

def warnFailures (player : Player) (failures : List ExprError) : Player :=
  failures.reverse.foldl (fun player failure =>
    player.warn ("Condition failed to evaluate; treating as false: " ++ failure.message)) player

def otherFlags (player : Player) (loaded : Loaded) : List (Nat × Nat) :=
  player.raised.filter fun flag => flag.1 ≠ loaded.handle

def follow (player : Player) (loaded : Loaded) (trail : Trail) : Player :=
  let raised := trail.raised.map (fun host => (loaded.handle, host)) ++ player.otherFlags loaded
  { player with raised := raised, draws := trail.draws }.warnFailures trail.failures

def next (player : Player) (loaded : Loaded) (index : Nat) (passed : Bool) : Except StructuralError Nat × Player :=
  let (next, trail) := loaded.playlist.advance player.store.get? index passed (player.trail loaded)
  (next, player.follow loaded trail)

def passesGuard (player : Player) (command : Command) : Bool × Player :=
  match command.guard with
  | none => (true, player)
  | some guard =>
    match guard.holds player.store.get? with
    | .ok value => (value, player)
    | .error failure => (false, player.warnFailures [failure])

def clearVisits (player : Player) (loaded : Loaded) : Player := { player with raised := player.otherFlags loaded }

def isReturnVisit (player : Player) (loaded : Loaded) (index : Nat) : Bool :=
  player.raised.contains (loaded.handle, index)

/-! ### Observations -/

def isInstant (player : Player) (lane : Lane) : Bool :=
  player.playback.mode.skip || (lane = .main && player.playback.masked)

def progress (player : Player) : Float :=
  match player.library.totalCommands with
  | 0 => 0
  | total =>
    let visited := player.library.names.foldl (fun total name => total + player.played.count name) 0
    let ratio := visited.toUInt64.toFloat / total.toUInt64.toFloat
    if ratio < 1 then ratio else 1

def permittedSpots (player : Player) : List Spot :=
  (player.history.snapshots.reverse.filter Snapshot.permitted).map Snapshot.spot

end Player

end Storyline
