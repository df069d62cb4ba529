import Storyline.Player.Jump
import Storyline.Player.Modes

set_option autoImplicit false

/-!
Starting and stopping, and taking over a saved state.
-/

namespace Storyline.Player

def stopFor (player : Player) (reason : StopReason) : Player :=
  if player.playback.playing then
    ({ player with playback := { player.playback with playing := false } }.tell .stateChanged).publish
      (.stopped player.playback.spot? reason)
  else player

def stop (player : Player) : Player := player.stopFor .requested

def stopLoop (player : Player) (generation : Nat) (reason : StopReason) : Player :=
  if player.playback.isLive generation then player.stopFor reason else player

def halt (player : Player) (generation : Nat) (cause : Error) : Player :=
  (player.report ("Playback halted: " ++ cause.message)).stopLoop generation .structural

def start (player : Player) : Except Error Unit × Player :=
  if player.playback.playing then (.ok (), player)
  else match player.playback.spot? with
    | none => (.error (.script (.empty (player.playback.script?.getD ""))), player)
    | some spot =>
      let generation := player.playback.generation + 1
      let started := { player with playback := { player.playback with playing := true, generation := generation } }
      (.ok (), ((started.tell .stateChanged).publish (.started spot)).tell
        (.spawned (.steering (.loop generation))))

def entry (player : Player) (script : String) (label : Option String) : Except Error (Loaded × Nat) × Player :=
  match player.library.require script with
  | .error cause => (.error cause, player)
  | .ok (loaded, library) =>
    let place : Except Error Nat :=
      if loaded.playlist.length = 0 then .error (.script (.empty script))
      else match label with
        | none => .ok 0
        | some label =>
          match loaded.playlist.indexOfLabel? label with
          | some index => .ok index
          | none => .error (.script (.labelNotFound script label))
    (place.bind fun index =>
      match loaded.playlist.ensureNavigable index with
      | .error fault => .error (.structural fault)
      | .ok () => .ok (loaded, index), player.withLibrary library)

def play (player : Player) (script : String) (label : Option String) : Except Error Unit × Player :=
  match player.entry script label with
  | (.error cause, player) => (.error cause, player)
  | (.ok (loaded, index), player) =>
    let ready := (player.stop.clearVisits loaded).moveCaret loaded index false
    { ready with playback := { ready.playback with returns := [], masked := false } }.start

def clear (player : Player) : Player :=
  let cleared := player.library.scripts.foldl clearVisits { player with playback := player.playback.clear }
  ({ cleared with played := {}, store := {}, history := cleared.history.clear }.tell .stateChanged).publish
    (.stopped none .reset)

def place (player : Player) (spot : Spot) : Except Error (Loaded × Nat) × Player :=
  match player.library.require spot.script with
  | .error cause => (.error cause, player)
  | .ok (loaded, library) =>
    let found : Except Error (Loaded × Nat) :=
      match loaded.playlist.indexOf? spot with
      | none => .error (.script (.spotNotFound spot))
      | some index =>
        match loaded.playlist.ensureNavigable index with
        | .error fault => .error (.structural fault)
        | .ok () => .ok (loaded, index)
    (found, player.withLibrary library)

def adopt (player : Player) (save : Save) : Except Error Unit × Player :=
  let unskipped := player.playback.mode.disableSkip
  let awaited := unskipped.2.setWaiting save.waiting
  let change := { unskipped.1 with waiting := awaited.1.waiting }
  let adopted :=
    { player with playback := { player.playback with returns := save.returns, masked := false } }.withMode
      (change, awaited.2)
  let told := adopted.tell .stateChanged
  if save.playing && save.spot.isSome then told.start else (.ok (), told)

def restore (player : Player) (save : Save) : Except Error Unit × Player :=
  match save.spot with
  | none => { player with playback := player.playback.clear }.adopt save
  | some spot =>
    match player.place spot with
    | (.error cause, player) => (.error cause, player)
    | (.ok (loaded, index), player) =>
      ((player.clearVisits loaded).moveCaret loaded index save.executed).adopt save

def replace (player : Player) : Replacement → Reply × Player
  | .reset => (.nothing, player.clear)
  | .load save rollback =>
    match player.restore save with
    | (.ok (), player) => (if rollback then .flag true else .done, player)
    | (.error cause, player) => (.failed cause, player)

end Storyline.Player
