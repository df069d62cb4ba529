import Storyline.Player.Control

set_option autoImplicit false

/-!
Commands in flight. A command is registered and announced, does its effects one after another, and is unregistered and
announced again. Failures stay inside the command, except malformed nesting, which its caller gets to see.
-/

namespace Storyline

namespace Player

/-! ### Rendezvous -/

def enterRendezvous (player : Player) (callback : Option String) (parked : Option Nat) : Role × Player :=
  let (role, rendezvous) := player.rendezvous.enter callback
  let entered := { player with rendezvous := rendezvous }
  let raised := if role = .leader then entered.tell .completing else entered
  (role, match parked with
    | none => raised
    | some id => { raised with executing := raised.executing.park id }.tell .executingChanged)

def unpark (player : Player) (parked : Option Nat) : Player :=
  match parked with
  | none => player
  | some id => { player with executing := player.executing.unpark id }.tell .executingChanged

def leaveRendezvous? (player : Player) (role : Role) (parked : Option Nat) : Option Player :=
  match role with
  | .leader =>
    if player.executing.drained none then
      let (callbacks, rendezvous) := player.rendezvous.conclude
      let ended := { player.notes callbacks with rendezvous := rendezvous }.tell .rendezvousEnded
      some ((ended.unpark parked).publish .completed)
    else none
  | .follower generation =>
    if player.rendezvous.generation = generation then none else some (player.unpark parked)

/-! ### Begin and end -/

def launch (player : Player) (loaded : Loaded) (index : Nat) (command : Command) (lane : Lane) : Execution × Player :=
  let token := player.token
  let (id, executing) := player.executing.register command.spot lane
  let registered := { player with executing := executing }.tell .executingChanged
  ({ id := id, loaded := loaded, index := index, command := command, lane := lane, token := token },
    registered.publish (.commandExecuting command.spot command.name lane))

/-- Unregisters and announces a command, and decides what its failure means. -/
def finish (player : Player) (execution : Execution) (result : Except Error Unit) : Except Error Unit × Player :=
  let unregistered := { player with executing := player.executing.unregister execution.id }.tell .executingChanged
  let announced := unregistered.publish
    (.commandExecuted execution.command.spot execution.command.name execution.lane)
  match result with
  | .ok () => (.ok (), announced)
  | .error cause =>
    if cause.isCancelled then (.ok (), announced)
    else if cause.fatal then
      (.error cause, announced.report ("Structural error; playback halts: " ++ cause.message))
    else (.ok (), announced.warn ("Command failed: " ++ cause.message))

def schedule (player : Player) (body : Playlist) (millis : UInt64) : Player :=
  let (loaded, library) := player.library.load body
  let run : Run := { name := body.script, loaded := loaded, full := player.abandoned }
  (player.withLibrary library).tell
    (.spawned (if millis = 0 then .transient run else .deferred run (player.after millis)))

end Player

namespace Execution

inductive Progress where
  | going (execution : Execution)
  | ended (result : Except Error Unit)

def view (execution : Execution) (player : Player) : View where
  script := execution.loaded.playlist.script
  index := execution.index
  lane := execution.lane
  spot := execution.loaded.playlist.spotAt execution.index
  execution := execution.id
  instant := player.isInstant execution.lane
  completing := player.isCompleting execution.token

def proceed (execution : Execution) (player : Player) : Progress × Player := (.going execution, player)

def await (execution : Execution) (wait : Wait) (player : Player) : Progress × Player :=
  (.going { execution with wait := some wait }, player)

def push (execution : Execution) (effects : List Effect) : Execution :=
  { execution with effects := effects ++ execution.effects }

def unlessFailed (execution : Execution) (changed : Except Error Unit × Player) : Progress × Player :=
  match changed with
  | (.ok (), player) => execution.proceed player
  | (.error cause, player) => (.ended (.error cause), player)

def play (execution : Execution) (cue : Cue) (token : Token) (player : Player) : Progress × Player :=
  let opened := player.notes cue.opening
  match cue.failure, cue.pause with
  | some cause, _ => (.ended (.error cause), opened)
  | none, some (what, millis) =>
    execution.await (.sleep token what (opened.after millis) cue.closing) opened
  | none, none => execution.proceed (opened.notes cue.closing)

-- The mask is the main lane's; a transition beside it leaves the mask as it is.
def mask (execution : Execution) (value : Bool) (player : Player) : Player :=
  if execution.lane = .main then { player with playback := { player.playback with masked := value } } else player

def perform (execution : Execution) (effect : Effect) (player : Player) : Progress × Player :=
  let instant := player.isInstant execution.lane
  match effect with
  | .assign name op value =>
    match player.store.assign name op value with
    | .ok (_, store) => execution.proceed { player with store := store }
    | .error cause => (.ended (.error (.expr cause)), player)
  | .say line =>
    execution.play (player.presenter.say line (if instant then 0 else line.revealMillis)) execution.token player
  | .askInput => execution.proceed (if execution.lane = .main then player.setWaiting true else player)
  | .rest millis =>
    if instant then execution.proceed player
    else execution.await (.sleep execution.token "wait" (player.after millis) []) player
  | .sleep what millis =>
    execution.await (.sleep execution.token what (player.after millis) []) player
  | .pause millis => execution.await (.pause (player.after millis)) player
  | .jump target => execution.unlessFailed (player.jump target)
  | .call target => execution.unlessFailed (player.call target execution.command.spot)
  | .goBack => execution.proceed player.goBack
  | .halt => execution.proceed player.stop
  | .schedule millis =>
    match execution.loaded.playlist.extract execution.index with
    | .error fault => (.ended (.error (.structural fault)), player)
    | .ok body => execution.proceed (player.schedule body millis)
  | .barrier =>
    if player.isReturnVisit execution.loaded execution.index || !execution.loaded.playlist.enters execution.index then
      (execution.push [.awaitOthers]).proceed player
    else execution.proceed player
  | .awaitOthers =>
    if player.isCompleting execution.token then execution.proceed player
    else if instant then (execution.push [.completeOthers]).proceed player
    else execution.await (.barrier execution.token) player
  | .completeOthers =>
    let (role, entered) := player.enterRendezvous none (some execution.id)
    execution.await (.rendezvous role) entered
  | .waitOthers => execution.await .others player
  | .transition millis =>
    if player.isReturnVisit execution.loaded execution.index then
      (execution.push [.completeOthers, .blend millis true]).proceed (execution.mask false player)
    else if execution.loaded.playlist.enters execution.index then (execution.push [.capture, .cover]).proceed player
    else (execution.push [.capture, .blend millis false]).proceed player
  | .capture =>
    let opened := player.notes player.presenter.capture.opening
    match player.presenter.capture.failure, player.presenter.capture.pause with
    | some cause, _ => (.ended (.error cause), opened)
    | none, some millis => execution.await (.pause (opened.after millis)) opened
    | none, none => execution.proceed opened
  | .cover => execution.proceed (execution.mask true player)
  | .blend millis fresh =>
    let token := if fresh then player.token else execution.token
    execution.play (player.presenter.blend millis (player.isCancelled token)) token player
  | .note line => execution.proceed (player.note (line (execution.view player)))
  | .setSkip enabled line =>
    let (active, changed) := player.setSkip enabled
    execution.proceed (changed.note (line active))
  | .setAuto enabled => execution.proceed (player.setAutoPlay enabled)
  | .setWaiting waiting => execution.proceed (player.setWaiting waiting)
  | .fail cause => (.ended (.error (cause execution.command.spot)), player)

def wake? (execution : Execution) (wait : Wait) (player : Player) : Option (Except Error Unit × Player) :=
  match wait with
  | .sleep token what deadline closing =>
    match Ending.of? what (player.interrupt? token) (decide (deadline ≤ player.clock)) with
    | none => none
    | some (.error cause) => some (.error cause, player)
    | some (.ok _) => some (.ok (), player.notes closing)
  | .pause deadline => if deadline ≤ player.clock then some (.ok (), player) else none
  | .barrier token =>
    match Ending.of? "await" (player.interrupt? token) (player.executing.drained (some execution.id)) with
    | none => none
    | some (.error cause) => some (.error cause, player)
    | some (.ok .finished) => some (.ok (), player)
    | some (.ok .released) => some (.ok (), player.warn "Barrier released by completion request")
  | .others => if player.executing.drained (some execution.id) then some (.ok (), player) else none
  | .rendezvous role => (player.leaveRendezvous? role (some execution.id)).map fun player => (.ok (), player)

def step? (execution : Execution) (player : Player) : Option (Progress × Player) :=
  match execution.wait with
  | some wait => (execution.wake? wait player).map ({ execution with wait := none }.unlessFailed ·)
  | none =>
    if execution.begun then
      match execution.effects with
      | [] => some (.ended (.ok ()), player)
      | effect :: effects => some ({ execution with effects := effects }.perform effect player)
    else if player.isAbandoned execution.token.full then
      some (.ended (.error (.cancelled execution.command.name)), player)
    else some ({ execution with begun := true, effects := execution.command.kind.effects }.proceed player)

end Execution

end Storyline
