import Storyline.Player.Request

set_option autoImplicit false

/-!
One move of one activity. `Activity.step?` gives nothing while the activity has to wait; `Activity.hears` tells which notices
may end that.
-/

namespace Storyline

namespace Player

/-! ### The main loop and trips -/

def endLoop (player : Player) (generation : Nat) : Player :=
  if player.playback.isLive generation then
    (player.warn "Script ended without an explicit stop").stopLoop generation .endOfScript
  else player

def afterVisit (pilot : Pilot) (visited : Visit × Player) : Activity × Player :=
  match visited with
  | (.astray, player) => (.steering pilot, player)
  | (.done, player) => (.advancing pilot, player)
  | (.running execution epoch, player) => (.running execution (.pilot pilot epoch), player)

def steerLoop (player : Player) (generation : Nat) : Activity × Player :=
  if player.playback.isLive generation then
    if player.playback.mode.waiting then
      let auto := player.playback.mode.autoPlay
      let deadline := if auto then some (player.after player.config.autoPlayDelayMillis) else none
      (.awaitingInput generation auto deadline, player)
    else afterVisit (.loop generation) (player.visit generation)
  else (.finished .nothing, player)

def steerTrip (player : Player) (trip : Trip) : Activity × Player :=
  if player.playback.script? ≠ some trip.script then
    (player.warn "Fast-forward left the script; stopping short").disembark trip (.ok false)
  else if trip.target ≤ player.playback.index then player.disembark trip (.ok true)
  else if tripLimit ≤ trip.steps then
    (player.warn "Fast-forward step limit reached").disembark trip (.ok false)
  else
    afterVisit (.trip { trip with steps := trip.steps + 1 })
      ((player.withMode player.playback.mode.forceSkip).visit trip.generation)

def fail (player : Player) (pilot : Pilot) (cause : Error) : Activity × Player :=
  match pilot with
  | .loop generation => (.finished .nothing, player.halt generation cause)
  | .trip trip => player.disembark trip (.error cause)

def advancePilot (player : Player) (pilot : Pilot) : Activity × Player :=
  match player.advance pilot.generation, pilot with
  | (.moved, player), _ => (.steering pilot, player)
  | (.failed cause, player), _ => player.fail pilot cause
  | (.stale, player), .loop _ => (.finished .nothing, player)
  | (.atEnd, player), .loop generation => (.finished .nothing, player.endLoop generation)
  | (.stale, player), .trip trip | (.atEnd, player), .trip trip =>
    (player.warn "Fast-forward ran out of commands").disembark trip (.ok false)

-- Where the wait is released and its deadline is over as well, the release counts.
def awaitInput? (player : Player) (generation : Nat) (auto : Bool) (deadline : Option Nat) : Option (Activity × Player) :=
  if !player.playback.mode.waiting || !player.playback.isLive generation || player.playback.mode.autoPlay ≠ auto then
    some (.steering (.loop generation), player)
  else match deadline with
    | none => none
    | some time =>
      if time ≤ player.clock then
        if player.voice then
          let later := player.after (max player.config.voicePollMillis 1)
          some (.awaitingInput generation auto (some later), player)
        else some (.steering (.loop generation), player.setWaiting false)
      else none

/-! ### Transients -/

def endRun (player : Player) (run : Run) : Activity × Player :=
  (.finished .nothing, player.publish (.transientFinished run.name))

def haltRun (player : Player) (run : Run) (cause : Error) : Activity × Player :=
  (player.report ("Transient playlist halted: " ++ cause.message)).endRun run

def continueRun (player : Player) (run : Run) (passed : Bool) : Activity × Player :=
  match player.next run.loaded run.index passed with
  | (.ok next, player) => (.transient { run with index := next }, player)
  | (.error fault, player) => player.haltRun run (.structural fault)

def stepRun (player : Player) (run : Run) : Activity × Player :=
  match run.loaded.playlist.command? run.index with
  | none => player.endRun run
  | some command =>
    if player.isAbandoned run.full then (.finished .nothing, player)
    else match player.passesGuard command with
      | (false, player) => player.continueRun run false
      | (true, player) =>
        let (execution, launched) := player.launch run.loaded run.index command .transient
        if command.wait then (.running execution (.run run), launched)
        else (launched.tell (.spawned (.running execution .nobody))).continueRun run true

def resumeCaller (player : Player) (caller : Caller) (result : Except Error Unit) : Activity × Player :=
  match caller, result with
  | .nobody, _ => (.finished .nothing, player)
  | .pilot pilot epoch, .ok () => afterVisit pilot (player.settle pilot.generation epoch true)
  | .pilot pilot _, .error cause => player.fail pilot cause
  | .run run, .ok () => player.continueRun run true
  | .run run, .error cause => player.haltRun run cause

/-! ### Completion -/

/-- Goes on after everything in flight was completed; a pending input wait is released. -/
def afterCompletion (player : Player) (sequel : Sequel) : Activity × Player :=
  let released := if player.playback.mode.waiting then player.setWaiting false else player
  match sequel with
  | .travel trip => released.embark trip
  | _ => (resumeAt sequel, released)

end Player

def Wait.hears (wait : Wait) : Notice → Bool
  | .abandoned | .completing =>
    match wait with
    | .sleep .. | .barrier _ => true
    | _ => false
  | .executingChanged =>
    match wait with
    | .barrier _ | .others | .rendezvous .leader => true
    | _ => false
  | .rendezvousEnded =>
    match wait with
    | .rendezvous (.follower _) => true
    | _ => false
  | _ => false

namespace Activity

def step? (activity : Activity) (player : Player) : Option (Activity × Player) :=
  match activity with
  | .asked request => some (player.ask request)
  | .steering (.loop generation) => some (player.steerLoop generation)
  | .steering (.trip trip) => some (player.steerTrip trip)
  | .advancing pilot => some (player.advancePilot pilot)
  | .awaitingInput generation auto deadline => player.awaitInput? generation auto deadline
  | .running execution caller =>
    (execution.step? player).map fun moved =>
      match moved with
      | (.going execution, player) => (.running execution caller, player)
      | (.ended result, player) =>
        let (result, player) := player.finish execution result
        player.resumeCaller caller result
  | .deferred run deadline =>
    if player.isAbandoned run.full then some (.finished .nothing, player)
    else if deadline ≤ player.clock then some (.transient run, player)
    else none
  | .transient run => some (player.stepRun run)
  | .listening inlet =>
    match player.receive? inlet with
    | some (signal, player) => some (player.handle signal (.listen inlet))
    | none => if player.isClosed inlet then some (.finished .nothing, player) else none
  | .completing role sequel =>
    (player.leaveRendezvous? role none).map fun player => player.afterCompletion sequel
  | .draining replacement =>
    if player.executing.drained none then
      let (reply, player) := player.replace replacement
      some (.finished reply, player)
    else none
  | .sleeping deadline => if deadline ≤ player.clock then some (.finished .nothing, player) else none
  | .untilStopped => if player.playback.playing then none else some (.finished .done, player)
  | .finished _ => none

def deadline? : Activity → Option Nat
  | .awaitingInput _ _ deadline => deadline
  | .running execution _ =>
    match execution.wait with
    | some (.sleep _ _ deadline _) => some deadline
    | some (.pause deadline) => some deadline
    | _ => none
  | .deferred _ deadline => some deadline
  | .sleeping deadline => some deadline
  | _ => none

def isTimed (activity : Activity) : Bool := activity.deadline?.isSome

def isWaiting : Activity → Bool
  | .awaitingInput .. | .deferred .. | .listening _ | .completing .. | .draining _ | .sleeping _ | .untilStopped => true
  | .running execution _ => execution.wait.isSome
  | _ => false

def hears (activity : Activity) (notice : Notice) : Bool :=
  match activity, notice with
  | .awaitingInput .., .stateChanged => true
  | .untilStopped, .stateChanged => true
  | .running execution _, notice => execution.wait.any fun wait => wait.hears notice
  | .deferred .., .abandoned => true
  | .listening inlet, .sent other => inlet = other
  | .completing .leader _, .executingChanged => true
  | .completing (.follower _) _, .rendezvousEnded => true
  | .draining _, .executingChanged => true
  | _, _ => false

end Activity

end Storyline
