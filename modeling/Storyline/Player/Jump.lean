import Storyline.Player.State

set_option autoImplicit false

/-!
Jumps of the main caret: to a target, into a call, and back from it. A target that does not exist is passed over with a
warning; one inside a delay block is an error.
-/

namespace Storyline.Player

def moveCaret (player : Player) (loaded : Loaded) (index : Nat) (executed : Bool) : Player :=
  { player with playback := player.playback.setCaret loaded index executed }

def withLibrary (player : Player) (library : Library) : Player := { player with library := library }

def resolve (player : Player) (target : Target) : Except Error (Option (Loaded × Nat)) × Player :=
  match target.script.or player.playback.script? with
  | none => (.ok none, player.warn "Jump target has no script and nothing is playing")
  | some script =>
    match player.library.require script with
    | .error cause =>
      (.ok none, player.warn ("Jump target script not found; continuing: " ++ cause.message))
    | .ok (loaded, library) =>
      let player := player.withLibrary library
      let place := match target.label with
        | some label => loaded.playlist.indexOfLabel? label
        | none => some 0
      match place with
      | none => (.ok none, player.warn "Jump target label not found; continuing")
      | some index =>
        if loaded.playlist.length ≤ index then (.ok none, player.warn "Jump target script is empty; continuing")
        else match loaded.playlist.ensureNavigable index with
          | .error fault => (.error (.structural fault), player)
          | .ok () => (.ok (some (loaded, index)), player)

def jump (player : Player) (target : Target) : Except Error Unit × Player :=
  match player.resolve target with
  | (.error cause, player) => (.error cause, player)
  | (.ok none, player) => (.ok (), player)
  | (.ok (some (loaded, index)), player) => (.ok (), (player.moveCaret loaded index false).tell .stateChanged)

def call (player : Player) (target : Target) (spot : Spot) : Except Error Unit × Player :=
  match player.resolve target with
  | (.error cause, player) => (.error cause, player)
  | (.ok none, player) => (.ok (), player)
  | (.ok (some (loaded, index)), player) =>
    let pushed := { player with playback := { player.playback with returns := player.playback.returns ++ [spot] } }
    (.ok (), (pushed.moveCaret loaded index false).tell .stateChanged)

/-- Moves the caret back to the newest call, which has already run, so that playback goes on after it. -/
def goBack (player : Player) : Player :=
  match player.playback.returns.getLast? with
  | none => player.warn "Return without a pending gosub; ignoring"
  | some spot =>
    let popped := { player with playback := { player.playback with returns := player.playback.returns.dropLast } }
    match popped.library.require spot.script with
    | .error cause => popped.warn ("Return script not found; ignoring: " ++ cause.message)
    | .ok (loaded, library) =>
      let found := popped.withLibrary library
      match loaded.playlist.indexOf? spot with
      | none => found.warn "Return spot no longer exists; ignoring"
      | some index => (found.moveCaret loaded index true).tell .stateChanged

end Storyline.Player
