import Storyline.Player.State

set_option autoImplicit false

/-!
Changes of the playback modes, and the snapshots that belong to them: raising the input wait makes the current snapshot one
that can be rolled back to.
-/

namespace Storyline.Player

def publishMode (player : Player) (change : ModeChange) : Player :=
  let skipped := match change.skip with
    | some enabled => player.publish (.skipChanged enabled)
    | none => player
  let auto := match change.autoPlay with
    | some enabled => skipped.publish (.autoPlayChanged enabled)
    | none => skipped
  let awaited := match change.waiting with
    | some waiting => auto.publish (.waitingForInput waiting)
    | none => auto
  if change.isEmpty then awaited else awaited.tell .stateChanged

def withMode (player : Player) (changed : ModeChange × Mode) : Player :=
  { player with playback := { player.playback with mode := changed.2 } }.publishMode changed.1

/-- Whether the command that skipping would run next was played before: the one under the caret if it has not run, else the
one in the place after it. -/
def upcomingVisited (player : Player) : Bool :=
  match player.playback.script? with
  | none => false
  | some script =>
    player.played.contains script
      (if player.playback.executed then player.playback.index + 1 else player.playback.index)

def permitRollback (player : Player) : Player :=
  match player.rollbackConfig.captureEveryCommand, player.playback.pending with
  | false, some snapshot =>
    { player with
      playback := { player.playback with pending := none }
      history := (player.history.push snapshot).permit }
  | _, _ => { player with history := player.history.permit }

def capture (player : Player) (spot : Spot) : Player :=
  let save : Save := { playing := true, returns := player.playback.returns, spot := some spot }
  let snapshot : Snapshot := { spot := spot, player := save, store := player.store }
  if player.rollbackConfig.captureEveryCommand then { player with history := player.history.push snapshot }
  else { player with playback := { player.playback with pending := some snapshot } }

def disableSkip (player : Player) : Player := player.withMode player.playback.mode.disableSkip

def setSkip (player : Player) (enabled : Bool) : Bool × Player :=
  if enabled then
    let visited := player.upcomingVisited
    match player.playback.mode.enableSkip visited with
    | some changed =>
      let ready := if player.playback.mode.waiting then player.permitRollback else player
      (true, ready.withMode changed)
    | none => (false, player.warn "Skip refused: upcoming command was never played")
  else (false, player.disableSkip)

def setAutoPlay (player : Player) (enabled : Bool) : Player :=
  player.withMode (player.playback.mode.setAutoPlay enabled)

def setWaiting (player : Player) (waiting : Bool) : Player :=
  let changed := player.playback.mode.setWaiting waiting
  let ready := if changed.1.waiting = some true then player.permitRollback else player
  ready.withMode changed

end Storyline.Player
