import Storyline.Proofs.Reach

set_option autoImplicit false

/-!
The course of a story without its pace. The ground is all that decides how the caret goes on: variables, draws, what was played,
raised flags, scripts, the caret and the calls that have not returned. One visit of the caret takes the ground to the next one.
Skipping, waiting, the clock and everything that is shown are left out, and the operations of a player do to the ground what
they do to it here.
-/

namespace Storyline

structure Ground where
  store : Variables
  draws : Draws
  played : Played
  raised : List (Nat × Nat)
  library : Library
  caret : Caret
  returns : List Spot
  masked : Bool
  -- whether pictures can be captured
  films : Bool

def Player.ground (player : Player) : Ground where
  store := player.store
  draws := player.draws
  played := player.played
  raised := player.raised
  library := player.library
  caret := player.playback.caret
  returns := player.playback.returns
  masked := player.playback.masked
  films := player.presenter.capture.failure.isNone

namespace Ground

def script? (ground : Ground) : Option String := ground.caret.loaded.map fun loaded => loaded.playlist.script

def moveCaret (ground : Ground) (loaded : Loaded) (index : Nat) (executed : Bool) : Ground :=
  { ground with caret := ⟨some loaded, index, executed, true, ground.caret.epoch + 1⟩ }

/-! ### Leaps -/

def resolve (ground : Ground) (target : Target) : Except Error (Option (Loaded × Nat)) × Ground :=
  match target.script.or ground.script? with
  | none => (.ok none, ground)
  | some script =>
    match ground.library.require script with
    | .error _ => (.ok none, ground)
    | .ok (loaded, library) =>
      let ground := { ground with library := library }
      let place := match target.label with
        | some label => loaded.playlist.indexOfLabel? label
        | none => some 0
      match place with
      | none => (.ok none, ground)
      | some index =>
        if loaded.playlist.length ≤ index then (.ok none, ground)
        else match loaded.playlist.ensureNavigable index with
          | .error fault => (.error (.structural fault), ground)
          | .ok () => (.ok (some (loaded, index)), ground)

-- Nothing if the target is inside a delay block; then playback halts.
def jump (ground : Ground) (target : Target) : Option Ground :=
  match ground.resolve target with
  | (.error _, _) => none
  | (.ok none, ground) => some ground
  | (.ok (some (loaded, index)), ground) => some (ground.moveCaret loaded index false)

def call (ground : Ground) (target : Target) (spot : Spot) : Option Ground :=
  match ground.resolve target with
  | (.error _, _) => none
  | (.ok none, ground) => some ground
  | (.ok (some (loaded, index)), ground) =>
    some ({ ground with returns := ground.returns ++ [spot] }.moveCaret loaded index false)

def goBack (ground : Ground) : Ground :=
  match ground.returns.getLast? with
  | none => ground
  | some spot =>
    let popped := { ground with returns := ground.returns.dropLast }
    match popped.library.require spot.script with
    | .error _ => popped
    | .ok (loaded, library) =>
      let found := { popped with library := library }
      match loaded.playlist.indexOf? spot with
      | none => found
      | some index => found.moveCaret loaded index true

/-! ### Visits -/

-- What one effect of a command at a place does; nothing if playback halts.
def turn (ground : Ground) (loaded : Loaded) (index : Nat) (spot : Spot) : Effect → Option Ground
  | .assign name op value =>
    match ground.store.assign name op value with
    | .ok (_, store) => some { ground with store := store }
    | .error _ => some ground
  | .jump target => ground.jump target
  | .call target => ground.call target spot
  | .goBack => some ground.goBack
  | .transition _ =>
    if ground.raised.contains (loaded.handle, index) then some { ground with masked := false }
    else if loaded.playlist.enters index && ground.films then some { ground with masked := true }
    else some ground
  | .cover => some { ground with masked := true }
  | _ => some ground

-- Of the effects of a built-in command only the first one matters, and what a picture is captured for.
def outcome (ground : Ground) (loaded : Loaded) (index : Nat) (spot : Spot) : List Effect → Option Ground
  | [] => some ground
  | .capture :: others => if ground.films then ground.outcome loaded index spot others else some ground
  | effect :: _ => ground.turn loaded index spot effect

def passes (ground : Ground) (command : Command) : Bool :=
  match command.guard with
  | none => true
  | some guard =>
    match guard.holds ground.store.get? with
    | .ok value => value
    | .error _ => false

def trail (ground : Ground) (loaded : Loaded) : Trail where
  raised := (ground.raised.filter fun flag => flag.1 = loaded.handle).map Prod.snd
  draws := ground.draws

def follow (ground : Ground) (loaded : Loaded) (trail : Trail) : Ground :=
  { ground with
    raised := trail.raised.map (fun host => (loaded.handle, host)) ++ ground.raised.filter fun flag => flag.1 ≠ loaded.handle
    draws := trail.draws }

-- Nothing if there is no next command.
def advance (ground : Ground) : Option Ground :=
  match ground.caret.loaded with
  | none => none
  | some loaded =>
    if ground.caret.executed then
      match loaded.playlist.advance ground.store.get? ground.caret.index ground.caret.guardPassed (ground.trail loaded) with
      | (.error _, _) => none
      | (.ok next, trail) =>
        if loaded.playlist.length ≤ next then none else some ((ground.follow loaded trail).moveCaret loaded next false)
    else some ground

def settle (ground : Ground) (passed : Bool) : Ground :=
  { ground with caret := { ground.caret with executed := true, guardPassed := passed } }

-- After a command that was visited at the epoch: it is marked as run and passed, unless it has moved the caret.
def land (ground : Ground) (epoch : Nat) (passed : Bool) : Option Ground :=
  if ground.caret.epoch = epoch then (ground.settle passed).advance else some ground

def visited (ground : Ground) (loaded : Loaded) : Ground :=
  { ground with played := ground.played.add loaded.playlist.script ground.caret.index }

-- One visit of the caret, up to the next one; nothing if there is none.
def course (ground : Ground) : Option Ground :=
  if ground.caret.executed then ground.advance
  else match ground.caret.loaded with
    | none => some ground
    | some loaded =>
      match loaded.playlist.command? ground.caret.index with
      | none => ground.advance
      | some command =>
        if ground.passes command then
          ((ground.visited loaded).outcome loaded ground.caret.index command.spot command.kind.effects).bind
            fun ground' => ground'.land ground.caret.epoch true
        else (ground.visited loaded).land ground.caret.epoch false

-- Where so many visits lead.
def reach (ground : Ground) : Nat → Option Ground
  | 0 => some ground
  | visits + 1 => (ground.reach visits).bind course

theorem reach_earlier (ground : Ground) (visits more : Nat) (there : Ground)
    (reached : ground.reach (visits + more) = some there) :
    ∃ between, ground.reach visits = some between := by
  induction more generalizing there with
  | zero => exact ⟨there, reached⟩
  | succ more ih =>
      obtain ⟨between, before, _⟩ := Option.bind_eq_some_iff.mp (reached : (ground.reach (visits + more)).bind course = _)
      exact ih between before

end Ground

/-! ### What the operations of a player do to the ground -/

-- The ground, and what a pilot of the caret relies on besides.
structure Frame where
  ground : Ground
  presenter : Presenter
  abandoned : Nat
  generation : Nat
  playing : Bool
  spawns : List Activity

namespace Player

def frame (player : Player) : Frame where
  ground := player.ground
  presenter := player.presenter
  abandoned := player.abandoned
  generation := player.playback.generation
  playing := player.playback.playing
  spawns := player.spawns

-- The frame as it would be on another ground.
def reframe (player : Player) (ground : Ground) : Frame := { player.frame with ground := ground }

variable (player : Player)

theorem tell_frame (notice : Notice) (nobody : notice.spawned? = none) : (player.tell notice).frame = player.frame := by
  simp [frame, ground, tell, spawns, List.filterMap_append, nobody]

theorem with_mode_frame (changed : ModeChange × Mode) : (player.withMode changed).frame = player.frame := by
  have told : player.spawns = (changed.1.notices ++ player.outbox).reverse.filterMap Notice.spawned? := by
    rw [List.filterMap_reverse, changed.1.notices_silent _ _ rfl, ← List.filterMap_reverse]
    rfl
  rw [with_mode_eq, frame, frame, told]
  rfl

end Player

-- A change of the facet leaves the frame alone.
def Facet.offGround : Facet → Bool
  | .beside | .launch | .ending | .parking | .rendezvous | .snapshot | .permission | .history | .mode | .skip => true
  | _ => false

theorem Edit.frame {facet : Facet} {before after : Player} (edit : Edit facet before after) (off : facet.offGround = true) :
    after.frame = before.frame := by
  cases edit with
  | tell _ notice nobody => exact before.tell_frame notice nobody
  | launch _ loaded index command lane =>
      exact Player.tell_frame { before with executing := (before.executing.register command.spot lane).2 } .executingChanged rfl
  | ending _ execution =>
      exact Player.tell_frame { before with executing := before.executing.unregister execution.id } .executingChanged rfl
  | parking _ executing => exact Player.tell_frame { before with executing := executing } .executingChanged rfl
  | mode _ changed | skip _ changed => exact before.with_mode_frame changed
  | capture _ spot =>
      unfold Player.capture
      split <;> rfl
  | permit =>
      unfold Player.permitRollback
      split <;> rfl
  | aside | publish | enter | conclude | rewind => rfl
  | _ => cases off

theorem Edits.frame {facets : List Facet} {before after : Player} (edits : Edits facets before after)
    (off : facets.all Facet.offGround = true) : after.frame = before.frame :=
  edits.lift (fun one two => two.frame = one.frame) off rfl (fun _ => rfl) (fun first second => second.trans first) Edit.frame

namespace Player

variable (player : Player)

theorem stop_for_frame (reason : StopReason) :
    (player.stopFor reason).frame = { player.frame with playing := false } := by
  unfold stopFor
  split
  · exact tell_frame { player with playback := { player.playback with playing := false } } .stateChanged rfl
  · next off =>
      have playing : player.playback.playing = false := Bool.eq_false_iff.mpr off
      simp only [frame, playing]

theorem guard_frame (command : Command) :
    (player.passesGuard command).1 = player.ground.passes command ∧ (player.passesGuard command).2.frame = player.frame := by
  have store : player.ground.store = player.store := rfl
  unfold passesGuard Ground.passes
  rw [store]
  cases command.guard with
  | none => exact ⟨rfl, rfl⟩
  | some guard =>
      dsimp only
      cases guard.holds player.store.get? with
      | ok value => exact ⟨rfl, rfl⟩
      | error failure => exact ⟨rfl, (player.warn_failures_edits [failure]).frame rfl⟩

/-! ### Leaps of a player -/

theorem move_caret_frame (loaded : Loaded) (index : Nat) (executed : Bool) :
    (player.moveCaret loaded index executed).frame = player.reframe (player.ground.moveCaret loaded index executed) := rfl

theorem resolve_frame (target : Target) :
    (player.resolve target).1 = (player.ground.resolve target).1 ∧
      (player.resolve target).2.frame = player.reframe (player.ground.resolve target).2 := by
  obtain ⟨script, label⟩ := target
  have here : player.ground.script? = player.playback.script? := rfl
  have library : player.ground.library = player.library := rfl
  unfold resolve Ground.resolve
  rw [here, library]
  cases script.or player.playback.script? with
  | none => exact ⟨rfl, rfl⟩
  | some name =>
      dsimp only
      cases player.library.require name with
      | error cause => exact ⟨rfl, rfl⟩
      | ok found =>
          obtain ⟨loaded, library⟩ := found
          cases label with
          | none =>
              dsimp only
              split
              · exact ⟨rfl, rfl⟩
              · cases loaded.playlist.ensureNavigable 0 <;> exact ⟨rfl, rfl⟩
          | some label =>
              dsimp only
              cases loaded.playlist.indexOfLabel? label with
              | none => exact ⟨rfl, rfl⟩
              | some index =>
                  dsimp only
                  split
                  · exact ⟨rfl, rfl⟩
                  · cases loaded.playlist.ensureNavigable index <;> exact ⟨rfl, rfl⟩

-- What an operation that may halt playback comes to: it fails for good, or goes on upon the ground.
def Grounds (player : Player) (ground : Option Ground) (changed : Except Error Unit × Player) : Prop :=
  match changed.1 with
  | .ok () => ∃ there, ground = some there ∧ changed.2.frame = player.reframe there
  | .error cause => ground = none ∧ cause.fatal = true ∧ cause.isCancelled = false

theorem resolve_fails (target : Target) (cause : Error) (failed : (player.resolve target).1 = .error cause) :
    cause.fatal = true ∧ cause.isCancelled = false := by
  unfold resolve at failed
  split at failed
  · cases failed
  · split at failed
    · cases failed
    · dsimp only at failed
      split at failed
      · cases failed
      · split at failed
        · cases failed
        · split at failed
          · obtain rfl := Except.error.inj failed
            exact ⟨rfl, rfl⟩
          · cases failed

-- A target leads to the same place for the player and on its ground.
inductive Resolves : Except Error (Option (Loaded × Nat)) × Player → Except Error (Option (Loaded × Nat)) × Ground → Prop where
  | refused (cause : Error) (after : Player) (there : Ground) (fails : cause.fatal = true ∧ cause.isCancelled = false) :
      Resolves (.error cause, after) (.error cause, there)
  | leads (place : Option (Loaded × Nat)) (after : Player) (frame : after.frame = player.reframe after.ground) :
      Resolves (.ok place, after) (.ok place, after.ground)

theorem resolve_resolves (target : Target) : player.Resolves (player.resolve target) (player.ground.resolve target) := by
  obtain ⟨same, frame⟩ := resolve_frame player target
  have fails := resolve_fails player target
  generalize player.resolve target = resolved at same frame fails ⊢
  generalize player.ground.resolve target = ground at same frame ⊢
  obtain ⟨result, after⟩ := resolved
  obtain ⟨outcome, there⟩ := ground
  obtain rfl : result = outcome := same
  obtain rfl : after.ground = there := congrArg Frame.ground frame
  cases result with
  | error cause => exact .refused cause after _ (fails cause rfl)
  | ok place => exact .leads place after frame

theorem led_frame {after : Player} (frame : after.frame = player.reframe after.ground) (returns : List Spot) (loaded : Loaded)
    (index : Nat) :
    (({ after with playback := { after.playback with returns := returns } }.moveCaret loaded index false).tell
      .stateChanged).frame = player.reframe ({ after.ground with returns := returns }.moveCaret loaded index false) := by
  have others (other : Ground) : after.reframe other = player.reframe other := by
    simp only [reframe, show after.frame = _ from frame]
  exact (tell_frame _ .stateChanged rfl).trans (others _)

theorem jump_grounds (target : Target) : player.Grounds (player.ground.jump target) (player.jump target) := by
  have resolves := player.resolve_resolves target
  unfold jump Ground.jump
  generalize player.resolve target = resolved at resolves
  generalize player.ground.resolve target = ground at resolves
  cases resolves with
  | refused cause after there fails => exact ⟨rfl, fails⟩
  | leads place after frame =>
      cases place with
      | none => exact ⟨_, rfl, frame⟩
      | some place => exact ⟨_, rfl, player.led_frame frame after.playback.returns place.1 place.2⟩

theorem call_grounds (target : Target) (spot : Spot) :
    player.Grounds (player.ground.call target spot) (player.call target spot) := by
  have resolves := player.resolve_resolves target
  unfold call Ground.call
  generalize player.resolve target = resolved at resolves
  generalize player.ground.resolve target = ground at resolves
  cases resolves with
  | refused cause after there fails => exact ⟨rfl, fails⟩
  | leads place after frame =>
      cases place with
      | none => exact ⟨_, rfl, frame⟩
      | some place => exact ⟨_, rfl, player.led_frame frame _ place.1 place.2⟩

theorem go_back_frame : player.goBack.frame = player.reframe player.ground.goBack := by
  have returns : player.ground.returns = player.playback.returns := rfl
  have library : player.ground.library = player.library := rfl
  unfold goBack Ground.goBack
  rw [returns]
  cases player.playback.returns.getLast? with
  | none => rfl
  | some spot =>
      dsimp only
      rw [library]
      cases player.library.require spot.script with
      | error cause => rfl
      | ok found =>
          obtain ⟨loaded, library⟩ := found
          dsimp only
          cases loaded.playlist.indexOf? spot with
          | none => rfl
          | some index => exact tell_frame _ .stateChanged rfl

/-! ### Visits of a player -/

theorem next_frame (loaded : Loaded) (index : Nat) (passed : Bool) :
    (player.next loaded index passed).1 =
        (loaded.playlist.advance player.store.get? index passed (player.ground.trail loaded)).1 ∧
      (player.next loaded index passed).2.frame = player.reframe (player.ground.follow loaded
        (loaded.playlist.advance player.store.get? index passed (player.ground.trail loaded)).2) :=
  ⟨rfl, (warn_failures_edits _ _).frame rfl⟩

end Player

end Storyline
