import Storyline.Player.Travel

set_option autoImplicit false

/-!
Requests: what a player is asked to do, and what it does at once. Some requests then wait, for the commands in flight or for
the time.
-/

namespace Storyline.Player

def answer (result : Except Error Unit × Player) : Activity × Player :=
  match result with
  | (.ok (), player) => (.finished .done, player)
  | (.error cause, player) => (.finished (.failed cause), player)

def resumeAt : Sequel → Activity
  | .listen inlet => .listening inlet
  | _ => .finished .nothing

def handle (player : Player) (signal : Signal) (sequel : Sequel) : Activity × Player :=
  match signal with
  | .continue =>
    if player.playback.mode.skip then (resumeAt sequel, player.disableSkip)
    else if player.playback.mode.waiting then (resumeAt sequel, player.setWaiting false)
    else if player.executing.drained none then (resumeAt sequel, player)
    else player.complete none sequel
  | .skipHold pressed => (resumeAt sequel, (player.setSkip pressed).2)
  | .toggleSkip => (resumeAt sequel, (player.setSkip !player.playback.mode.skip).2)
  | .toggleAutoPlay => (resumeAt sequel, player.setAutoPlay !player.playback.mode.autoPlay)
  | .stop => (resumeAt sequel, player.stop)

def playTransient (player : Player) (name : String) (loaded : Loaded) : Player :=
  player.tell (.spawned (.transient { name := name, loaded := loaded, full := player.abandoned }))

/-! ### Inlets -/

def inletCapacity : Nat := 16

def closeInlets (player : Player) : Player :=
  let opened := player.inlets.filter Inlet.isOpen
  let closed := { player with inlets := player.inlets.map fun inlet => { inlet with isOpen := false } }
  opened.foldl (fun player inlet => player.tell (.sent inlet.id)) closed

def bind (player : Player) : Player :=
  let closed := player.closeInlets
  let id := closed.inlets.length
  { closed with inlets := closed.inlets ++ [({ id := id } : Inlet)] }.tell (.spawned (.listening id))

def send (player : Player) (signals : List Signal) : Nat × Player :=
  match player.inlets.find? Inlet.isOpen with
  | none => (0, player)
  | some inlet =>
    let taken := signals.take (inletCapacity - inlet.queue.length)
    let filled := { inlet with queue := inlet.queue ++ taken }
    let sent := { player with inlets := player.inlets.map fun other => if other.id = inlet.id then filled else other }
    (taken.length, if taken.isEmpty then sent else sent.tell (.sent inlet.id))

def receive? (player : Player) (id : Nat) : Option (Signal × Player) :=
  (player.inlets.find? fun inlet => inlet.id = id).bind fun inlet =>
    match inlet.queue with
    | [] => none
    | signal :: queue =>
      let taken := { inlet with queue := queue }
      some (signal, { player with inlets := player.inlets.map fun other => if other.id = id then taken else other })

def isClosed (player : Player) (id : Nat) : Bool :=
  (player.inlets.find? fun inlet => inlet.id = id).all fun inlet => !inlet.isOpen

def ask (player : Player) : Request → Activity × Player
  | .nothing => (.finished .nothing, player)
  | .play script label => answer (player.play script label)
  | .resume => answer player.start
  | .stop => (.finished .nothing, player.stop)
  | .reset => player.giveUp .reset
  | .load save => player.giveUp (.load save false)
  | .complete callback => player.complete callback .reply
  | .input signal => player.handle signal .reply
  | .setSkip enabled =>
    let (active, changed) := player.setSkip enabled
    (.finished (.flag active), changed)
  | .setAutoPlay enabled => (.finished .nothing, player.setAutoPlay enabled)
  | .setWaiting waiting => (.finished .nothing, player.setWaiting waiting)
  | .setVoice playing => (.finished .nothing, { player with voice := playing })
  | .jump target => answer (player.jump target)
  | .call target spot => answer (player.call target spot)
  | .goBack => (.finished .done, player.goBack)
  | .rewindLine line => player.rewindToLine line
  | .rewindSpot spot => player.rewindToSpot spot
  | .transient name playlist =>
    let (loaded, library) := player.library.load playlist
    (.finished .nothing, (player.withLibrary library).playTransient name loaded)
  | .transientNamed name script =>
    match player.library.require script with
    | .error cause => (.finished (.failed cause), player)
    | .ok (loaded, library) => (.finished .nothing, (player.withLibrary library).playTransient name loaded)
  | .insert playlist =>
    let (loaded, library) := player.library.insert playlist
    (.finished (.count loaded.playlist.length), player.withLibrary library)
  | .setVariable name value => (.finished .nothing, { player with store := player.store.set name value })
  | .bind => (.finished .nothing, player.bind)
  | .send signals =>
    let (count, sent) := player.send signals
    (.finished (.count count), sent)
  | .unbind => (.finished .nothing, player.closeInlets)
  | .sleep millis => (.sleeping (player.clock + millis), player)
  | .untilStopped => (.untilStopped, player)

end Storyline.Player
