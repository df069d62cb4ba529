import Storyline.Player.Caret

set_option autoImplicit false

/-!
Travel to another place of the story. Ahead in the same script the commands in between are run under forced skip; anywhere
else the newest permitted snapshot at the place, or the nearest one before it, is taken over.
-/

namespace Storyline.Player

def tripLimit : Nat := 100000

def complete (player : Player) (callback : Option String) (sequel : Sequel) : Activity × Player :=
  let (role, entered) := player.enterRendezvous callback none
  (.completing role sequel, entered)

def giveUp (player : Player) (replacement : Replacement) : Activity × Player :=
  (.draining replacement, player.stop.abandon)

def travel (player : Player) (script : String) (target : Nat) : Activity × Player :=
  let trip : Trip :=
    { script := script
      target := target
      wasPlaying := player.playback.playing
      wasSkipping := player.playback.mode.skip }
  player.stop.complete none (.travel trip)

def embark (player : Player) (trip : Trip) : Activity × Player :=
  let generation := player.playback.generation + 1
  (.steering (.trip { trip with generation := generation }),
    { player with playback := { player.playback with generation := generation } })

def disembark (player : Player) (trip : Trip) (outcome : Except Error Bool) : Activity × Player :=
  let restored := if trip.wasSkipping then player else player.disableSkip
  match outcome with
  | .error cause => (.finished (.failed cause), restored)
  | .ok reached =>
    if trip.wasPlaying then
      match restored.start with
      | (.ok (), started) => (.finished (.flag reached), started)
      | (.error cause, started) => (.finished (.failed cause), started)
    else (.finished (.flag reached), restored)

def rollBack (player : Player) (snapshot : Snapshot) : Activity × Player :=
  let save := { snapshot.player with playing := player.playback.playing }
  { player with history := player.history.restore snapshot, store := snapshot.store }.giveUp (.load save true)

def rollBackTo (player : Player) (spot : Spot) : Activity × Player :=
  match player.history.find? fun candidate => candidate = spot with
  | some snapshot => player.rollBack snapshot
  | none =>
    match player.history.find? fun candidate => candidate.script = spot.script && candidate.le spot with
    | some snapshot =>
      (player.warn "Rewind target not recorded; using nearest earlier snapshot").rollBack snapshot
    | none => (.finished (.flag false), player.warn "Rewind target unreachable; no rollback snapshot")

def rewindToIndex (player : Player) (playlist : Playlist) (target : Nat) : Activity × Player :=
  if player.playback.index < target then player.travel playlist.script target
  else match playlist.command? target with
    | none => (.finished (.flag false), player)
    | some command => player.rollBackTo command.spot

def rewindToLine (player : Player) (line : UInt32) : Activity × Player :=
  match player.playback.loaded with
  | none => (.finished (.flag false), player.warn "Rewind requested with no script loaded")
  | some loaded =>
    match loaded.playlist.indexFromLine? line with
    | none => (.finished (.flag false), player.warn "Rewind target line is past the end of the script")
    | some target => player.rewindToIndex loaded.playlist target

def rewindToSpot (player : Player) (spot : Spot) : Activity × Player :=
  match player.playback.loaded.filter fun loaded => loaded.playlist.script = spot.script with
  | none => player.rollBackTo spot
  | some loaded =>
    match loaded.playlist.indexOf? spot with
    | none => (.finished (.flag false), player.warn "Rewind target spot does not exist")
    | some target => player.rewindToIndex loaded.playlist target

end Storyline.Player
