import Storyline.Player.Flight

set_option autoImplicit false

/-!
The main caret. A pilot visits the command under the caret, which runs at most once for each place the caret comes to, and
then moves the caret on. A pilot that has been superseded does neither.
-/

namespace Storyline.Player

inductive Visit where
  | astray
  | done
  | running (execution : Execution) (epoch : Nat)

def settle (player : Player) (generation epoch : Nat) (passed : Bool) : Visit × Player :=
  if player.playback.generation = generation ∧ player.playback.epoch = epoch then
    (.done, { player with playback := { player.playback with executed := true, guardPassed := passed } })
  else (.astray, player)

def runCommand (player : Player) (generation : Nat) (loaded : Loaded) (command : Command) : Visit × Player :=
  let index := player.playback.index
  let epoch := player.playback.epoch
  let (passed, judged) := player.passesGuard command
  let visited := { judged with played := judged.played.add loaded.playlist.script index }
  if passed then
    let (execution, launched) := (visited.capture command.spot).launch loaded index command .main
    if command.wait then (.running execution epoch, launched)
    else (launched.tell (.spawned (.running execution .nobody))).settle generation epoch true
  else visited.settle generation epoch false

def visit (player : Player) (generation : Nat) : Visit × Player :=
  if player.playback.generation ≠ generation then (.astray, player)
  else if player.playback.executed then (.done, player)
  else match player.playback.loaded with
    | none => (.astray, player)
    | some loaded =>
      match loaded.playlist.command? player.playback.index with
      | none => (.done, player)
      | some command => player.runCommand generation loaded command

inductive Advance where
  | moved
  | atEnd
  | stale
  | failed (cause : Error)

def checkSkip (player : Player) (script : String) (index : Nat) : Player :=
  if player.playback.mode.skip && !player.playback.mode.permits (player.played.contains script index) then
    player.disableSkip
  else player

def advance (player : Player) (generation : Nat) : Advance × Player :=
  if player.playback.generation ≠ generation then (.stale, player)
  else match player.playback.loaded with
    | none => (.atEnd, player)
    | some loaded =>
      if player.playback.executed then
        match player.next loaded player.playback.index player.playback.guardPassed with
        | (.error fault, followed) => (.failed (.structural fault), followed)
        | (.ok next, followed) =>
          if loaded.playlist.length ≤ next then (.atEnd, followed)
          else
            (.moved,
              ((followed.moveCaret loaded next false).tell .stateChanged).checkSkip loaded.playlist.script next)
      else (.moved, player)

end Storyline.Player
