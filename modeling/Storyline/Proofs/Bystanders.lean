import Storyline.Proofs.Pace

set_option autoImplicit false

/-!
Scripts without surprises, and what goes on beside them. Listeners, input, and loops that have been superseded leave the ground
alone.
-/

namespace Storyline

/-! ### Scripts without surprises -/

-- Whatever the library has or may let in under the name of the script is tame.
structure Library.Tame (script : String) (library : Library) : Prop where
  scripts : ∀ loaded ∈ library.scripts, loaded.playlist.script = script → loaded.playlist.isTame = true
  files : ∀ name text playlist, (library.search.bind fun directory => directory.read name) = some (.ok text) →
    library.registry.ofText text = .ok playlist → playlist.script = script → playlist.isTame = true

structure Ground.Tame (script : String) (ground : Ground) : Prop where
  library : ground.library.Tame script
  caret : ∀ loaded, ground.caret.loaded = some loaded → loaded.playlist.script = script → loaded.playlist.isTame = true

theorem Library.require_tame {script : String} (library : Library) (tame : library.Tame script) (name : String) (loaded : Loaded)
    (after : Library) (found : library.require name = .ok (loaded, after)) :
    after.Tame script ∧ (loaded.playlist.script = script → loaded.playlist.isTame = true) := by
  rcases library.require_cases name loaded after found with ⟨here, rfl⟩ | ⟨_, text, playlist, file, read, added⟩
  · exact ⟨tame, tame.scripts loaded (List.mem_of_find?_eq_some here)⟩
  · obtain ⟨rfl, rfl⟩ := Prod.mk.inj added
    have new := tame.files name text playlist file read
    refine ⟨⟨fun other member => ?_, tame.files⟩, new⟩
    rcases Tables.mem_put put_places member with rfl | old
    · exact new
    · exact tame.scripts other old

namespace Ground

variable {script : String} (ground there : Ground) (tame : ground.Tame script)
include tame

theorem move_tame (loaded : Loaded) (index : Nat) (executed : Bool)
    (fits : loaded.playlist.script = script → loaded.playlist.isTame = true) :
    (ground.moveCaret loaded index executed).Tame script :=
  ⟨tame.library, fun _ here => Option.some.inj here ▸ fits⟩

theorem resolve_tame (target : Target) :
    (ground.resolve target).2.Tame script ∧ ∀ loaded index, (ground.resolve target).1 = .ok (some (loaded, index)) →
      loaded.playlist.script = script → loaded.playlist.isTame = true := by
  have stays (there : Except Error (Option (Loaded × Nat))) (nowhere : ∀ place, there ≠ .ok (some place)) (after : Ground)
      (same : after.Tame script) : after.Tame script ∧ ∀ loaded index, there = .ok (some (loaded, index)) →
        loaded.playlist.script = script → loaded.playlist.isTame = true :=
    ⟨same, fun loaded index found => absurd found (nowhere _)⟩
  unfold resolve
  split
  · exact stays _ (by simp) _ tame
  · split
    · exact stays _ (by simp) _ tame
    · next loaded library found =>
        obtain ⟨kept, fits⟩ := ground.library.require_tame tame.library _ loaded library found
        have after : Ground.Tame script { ground with library := library } := ⟨kept, tame.caret⟩
        dsimp only
        split
        · exact stays _ (by simp) _ after
        · split
          · exact stays _ (by simp) _ after
          · split
            · exact stays _ (by simp) _ after
            · refine ⟨after, fun other place same => ?_⟩
              obtain ⟨rfl, _⟩ := Prod.mk.inj (Option.some.inj (Except.ok.inj same))
              exact fits

theorem jump_tame (target : Target)
    (jumps : ground.jump target = some there) : there.Tame script := by
  obtain ⟨kept, fits⟩ := ground.resolve_tame tame target
  unfold jump at jumps
  split at jumps
  · cases jumps
  · next same =>
      obtain rfl := Option.some.inj jumps
      exact (same ▸ kept :)
  · next loaded index after same =>
      obtain rfl := Option.some.inj jumps
      rw [same] at kept fits
      exact after.move_tame kept loaded index false (fits loaded index rfl)

theorem call_tame (target : Target) (spot : Spot)
    (calls : ground.call target spot = some there) : there.Tame script := by
  obtain ⟨kept, fits⟩ := ground.resolve_tame tame target
  unfold call at calls
  split at calls
  · cases calls
  · next same =>
      obtain rfl := Option.some.inj calls
      exact (same ▸ kept :)
  · next loaded index after same =>
      obtain rfl := Option.some.inj calls
      rw [same] at kept fits
      exact move_tame { after with returns := after.returns ++ [spot] } ⟨kept.library, kept.caret⟩ loaded index false
        (fits loaded index rfl)

theorem go_back_tame : ground.goBack.Tame script := by
  unfold goBack
  split
  · exact tame
  · next spot _ =>
      dsimp only
      split
      · exact ⟨tame.library, tame.caret⟩
      · next loaded library found =>
          obtain ⟨kept, fits⟩ := ground.library.require_tame tame.library _ loaded library found
          split
          · exact ⟨kept, tame.caret⟩
          · exact move_tame { ground with returns := ground.returns.dropLast, library := library } ⟨kept, tame.caret⟩ loaded _
              true fits

theorem turn_tame (loaded : Loaded) (index : Nat) (spot : Spot)
    (effect : Effect) (turns : ground.turn loaded index spot effect = some there) : there.Tame script := by
  cases effect with
  | assign name op value =>
      simp only [turn] at turns
      split at turns <;> obtain rfl := Option.some.inj turns <;> exact ⟨tame.library, tame.caret⟩
  | jump target => exact ground.jump_tame there tame target turns
  | call target => exact ground.call_tame there tame target spot turns
  | goBack => exact Option.some.inj turns ▸ ground.go_back_tame tame
  | transition millis =>
      simp only [turn] at turns
      split at turns
      · obtain rfl := Option.some.inj turns
        exact ⟨tame.library, tame.caret⟩
      · split at turns <;> obtain rfl := Option.some.inj turns <;> exact ⟨tame.library, tame.caret⟩
  | cover =>
      obtain rfl := Option.some.inj turns
      exact ⟨tame.library, tame.caret⟩
  | _ => exact Option.some.inj turns ▸ tame

theorem outcome_tame (loaded : Loaded) (index : Nat) (spot : Spot) (effects : List Effect)
    (leads : ground.outcome loaded index spot effects = some there) : there.Tame script := by
  induction effects with
  | nil => exact Option.some.inj leads ▸ tame
  | cons effect others ih =>
      by_cases films : effect = .capture
      · subst films
        rw [outcome] at leads
        split at leads
        · exact ih leads
        · exact Option.some.inj leads ▸ tame
      · rw [outcome_cons _ _ _ _ effect others films] at leads
        exact turn_tame ground there tame loaded index spot effect leads

theorem advance_tame (advances : ground.advance = some there) : there.Tame script := by
  unfold advance at advances
  split at advances
  · cases advances
  · next loaded here =>
      split at advances
      · split at advances
        · cases advances
        · next trail _ =>
            split at advances
            · cases advances
            · obtain rfl := Option.some.inj advances
              exact move_tame (ground.follow loaded trail) ⟨tame.library, tame.caret⟩ loaded _ false (tame.caret loaded here)
      · exact Option.some.inj advances ▸ tame

theorem land_tame (epoch : Nat) (passed : Bool)
    (lands : ground.land epoch passed = some there) : there.Tame script := by
  unfold land at lands
  split at lands
  · exact advance_tame (ground.settle passed) there ⟨tame.library, tame.caret⟩ lands
  · exact Option.some.inj lands ▸ tame

theorem course_tame (leads : ground.course = some there) : there.Tame script := by
  unfold course at leads
  split at leads
  · exact ground.advance_tame there tame leads
  · split at leads
    · exact Option.some.inj leads ▸ tame
    · next loaded here =>
        have visited : (ground.visited loaded).Tame script := ⟨tame.library, tame.caret⟩
        split at leads
        · exact ground.advance_tame there tame leads
        · next command found =>
            split at leads
            · obtain ⟨between, outcome, lands⟩ := Option.bind_eq_some_iff.mp leads
              exact between.land_tame there (outcome_tame _ between visited loaded _ _ _ outcome) _ _ lands
            · exact land_tame _ there visited _ _ leads

theorem reach_tame (visits : Nat) (there : Ground)
    (reached : ground.reach visits = some there) : there.Tame script := by
  induction visits generalizing there with
  | zero => exact Option.some.inj reached ▸ tame
  | succ visits ih =>
      obtain ⟨between, before, leads⟩ := Option.bind_eq_some_iff.mp (reached : (ground.reach visits).bind course = _)
      exact between.course_tame there (ih between before) leads

theorem tame_here (within : ground.script? = some script) (loaded : Loaded)
    (command : Command) (here : ground.caret.loaded = some loaded)
    (found : loaded.playlist.command? ground.caret.index = some command) :
    command.wait = true ∧ command.kind.isTame = true := by
  rw [script?, here, Option.map_some] at within
  exact loaded.playlist.tame_command (tame.caret loaded here (Option.some.inj within)) _ command found

end Ground

/-! ### Bystanders -/

def Sequel.isTravel : Sequel → Bool
  | .travel _ => true
  | _ => false

-- What leaves the ground alone, where loops up to a generation are superseded.
def Activity.isBystander (newest : Nat) : Activity → Bool
  | .asked (.input _) | .listening _ | .sleeping _ | .untilStopped | .finished _ => true
  | .completing _ sequel => !sequel.isTravel
  | .steering (.loop generation) | .awaitingInput generation .. => decide (generation ≤ newest)
  | _ => false

-- Playback may be turned off, and nothing else happens to the frame.
structure Stills (before after : Player) : Prop where
  frame : after.frame = { before.frame with playing := after.playback.playing }
  off : after.playback.playing = true → before.playback.playing = true

theorem Stills.of_frame {before after : Player} (same : after.frame = before.frame) : Stills before after := by
  have playing : after.playback.playing = before.playback.playing := congrArg Frame.playing same
  refine ⟨?_, fun on => playing ▸ on⟩
  rw [same, playing]
  rfl

theorem Stills.ground {before after : Player} (stills : Stills before after) : after.ground = before.ground :=
  congrArg Frame.ground stills.frame

theorem Player.stop_stills (player : Player) : Stills player player.stop := by
  have frame := player.stop_for_frame .requested
  have off : player.stop.playback.playing = false := congrArg Frame.playing frame
  refine ⟨?_, fun on => by rw [off] at on; cases on⟩
  rw [off]
  exact frame

theorem Player.handle_stills (player : Player) (signal : Signal) (sequel : Sequel) (home : sequel.isTravel = false)
    (newest : Nat) :
    (player.handle signal sequel).1.isBystander newest = true ∧ Stills player (player.handle signal sequel).2 := by
  have back : (resumeAt sequel).isBystander newest = true := by
    cases sequel with
    | travel trip => cases home
    | _ => rfl
  cases signal with
  | «continue» =>
      simp only [handle]
      split
      · exact ⟨back, .of_frame (player.with_mode_frame _)⟩
      · split
        · exact ⟨back, .of_frame ((player.set_waiting_edits false).frame rfl)⟩
        · split
          · exact ⟨back, .of_frame rfl⟩
          · refine ⟨?_, .of_frame ((player.enter_rendezvous_edits none none).frame rfl)⟩
            simp [complete, Activity.isBystander, home]
  | skipHold pressed => exact ⟨back, .of_frame ((player.set_skip_edits pressed).frame rfl)⟩
  | toggleSkip => exact ⟨back, .of_frame ((player.set_skip_edits _).frame rfl)⟩
  | toggleAutoPlay => exact ⟨back, .of_frame (player.with_mode_frame _)⟩
  | stop => exact ⟨back, player.stop_stills⟩

theorem bystander_step (newest : Nat) (activity : Activity) (player : Player) (successor : Activity) (after : Player)
    (bystander : activity.isBystander newest = true)
    (dormant : ∀ generation ≤ newest, player.playback.isLive generation = false)
    (step : activity.step? player = some (successor, after)) :
    successor.isBystander newest = true ∧ Stills player after := by
  cases activity with
  | asked request =>
      cases request with
      | input signal =>
          have moved : player.handle signal .reply = (successor, after) := Option.some.inj step
          have handled := player.handle_stills signal .reply rfl newest
          rw [moved] at handled
          exact handled
      | _ => cases bystander
  | listening inlet =>
      simp only [Activity.step?] at step
      split at step
      · next signal taken received =>
          have moved : taken.handle signal (.listen inlet) = (successor, after) := Option.some.inj step
          obtain ⟨stays, stills⟩ := taken.handle_stills signal (.listen inlet) rfl newest
          have frame := (player.receive_edits inlet signal taken received).frame rfl
          rw [moved] at stays stills
          refine ⟨stays, by rw [stills.frame, frame], fun on => ?_⟩
          exact (congrArg Frame.playing frame).symm.trans (stills.off on)
      · split at step
        · obtain ⟨rfl, rfl⟩ := Prod.mk.inj (Option.some.inj step)
          exact ⟨rfl, .of_frame rfl⟩
        · cases step
  | completing role sequel =>
      obtain ⟨left, leaves, moved⟩ := Option.map_eq_some_iff.mp step
      have frame := (player.leave_rendezvous_edits role none left leaves).frame rfl
      have released := left.released_edits.frame rfl
      cases sequel with
      | travel trip => cases bystander
      | _ =>
          obtain ⟨rfl, rfl⟩ := Prod.mk.inj moved
          exact ⟨rfl, .of_frame (released.trans frame)⟩
  | sleeping deadline =>
      simp only [Activity.step?] at step
      split at step
      · obtain ⟨rfl, rfl⟩ := Prod.mk.inj (Option.some.inj step)
        exact ⟨rfl, .of_frame rfl⟩
      · cases step
  | untilStopped =>
      simp only [Activity.step?] at step
      split at step
      · cases step
      · obtain ⟨rfl, rfl⟩ := Prod.mk.inj (Option.some.inj step)
        exact ⟨rfl, .of_frame rfl⟩
  | finished reply => cases step
  | steering pilot =>
      cases pilot with
      | loop generation =>
          have asleep := dormant generation (of_decide_eq_true bystander)
          have moved : player.steerLoop generation = (successor, after) := Option.some.inj step
          rw [Player.steerLoop, asleep] at moved
          obtain ⟨rfl, rfl⟩ := Prod.mk.inj moved
          exact ⟨rfl, .of_frame rfl⟩
      | trip trip => cases bystander
  | awaitingInput generation auto deadline =>
      have asleep := dormant generation (of_decide_eq_true bystander)
      have moved : player.awaitInput? generation auto deadline = some (successor, after) := step
      unfold Player.awaitInput? at moved
      simp only [asleep, Bool.not_false, Bool.or_true, Bool.true_or, if_true] at moved
      obtain ⟨rfl, rfl⟩ := Prod.mk.inj (Option.some.inj moved)
      exact ⟨bystander, .of_frame rfl⟩
  | advancing _ | running _ _ | deferred _ _ | transient _ | draining _ => cases bystander

namespace World

/-! ### Moves that start nothing -/

theorem quiet_of_spawns (player : Player) (quiet : player.spawns = []) : ∀ notice ∈ player.outbox, notice.spawned? = none := by
  intro notice member
  exact List.filterMap_eq_nil_iff.mp quiet notice (List.mem_reverse.mpr member)

theorem others_stay (world : World) (numbered : world.Numbered) (move : Move) (activity : Activity)
    (mover : world.mover? move = some activity) (successor : Activity) (player : Player)
    (step : activity.step? world.player = some (successor, player)) (quiet : player.spawns = []) (other : Move)
    (different : other ≠ move) : (world.move move).mover? other = world.mover? other := by
  have told := quiet_of_spawns player quiet
  -- no number is given out
  have same : (world.move move).nextThread = world.nextThread ∧ (other = .front → (world.move move).front = world.front) := by
    cases move with
    | thread id =>
        obtain ⟨thread, found, rfl⟩ := Option.map_eq_some_iff.mp mover
        have delivered (threads : List Thread) (turns : Nat) (giver : Option Nat) (after : Player)
            (same : after.outbox = player.outbox) :
            ({ world with player := after, threads := threads, turns := turns }.deliver giver).nextThread = world.nextThread ∧
              ({ world with player := after, threads := threads, turns := turns }.deliver giver).front = world.front := by
          obtain ⟨queue, moved⟩ := deliver_quiet { world with player := after, threads := threads, turns := turns } giver
            (same ▸ told)
          rw [moved]
          exact ⟨rfl, rfl⟩
        have stepped : ∃ threads turns giver after, after.outbox = player.outbox ∧ world.move (.thread id) =
            { world with player := after, threads := threads, turns := turns }.deliver giver := by
          simp only [World.move, step?, found, Option.bind_some, step, Option.map_some, Option.getD_some]
          cases successor with
          | finished reply =>
              refine ⟨_, world.turns, none, _, ?_, rfl⟩
              cases thread.report reply player <;> rfl
          | _ => exact ⟨_, _, _, _, rfl, rfl⟩
        obtain ⟨threads, turns, giver, after, outbox, moved⟩ := stepped
        rw [moved]
        exact ⟨(delivered threads turns giver after outbox).1, fun _ => (delivered threads turns giver after outbox).2⟩
    | front =>
        rw [front_eq world mover step]
        obtain ⟨queue, moved⟩ := deliver_quiet
          { world with player := player, front := some successor, turns := world.turns + 1 } none told
        rw [moved]
        exact ⟨rfl, fun own => absurd own different⟩
    | _ => cases mover
  cases other with
  | front => exact same.2 rfl
  | thread id =>
      by_cases old : id < world.nextThread
      · rcases (thread_stays world move id old).2 with stays | ⟨own, _⟩
        · exact congrArg (Option.map Thread.activity) stays
        · exact absurd own.symm different
      · -- nobody had the number, and nobody has it now
        have nobody (there : World) (known : there.Numbered) (next : there.nextThread = world.nextThread) :
            there.mover? (.thread id) = none := by
          cases found : there.thread? id with
          | none => rw [mover?, found]; rfl
          | some thread =>
              have below := (thread_mem known found).1
              rw [next] at below
              exact absurd below old
        rw [nobody world numbered rfl, nobody _ (move_comes world numbered move).2 same.1]
  | _ => rfl

theorem move_idle (world : World) (move : Move) (activity : Option Activity) (mover : world.mover? move = activity)
    (still : ∀ own, activity = some own → own.step? world.player = none) (own : move = .front ∨ ∃ id, move = .thread id) :
    world.move move = world := by
  rcases own with rfl | ⟨id, rfl⟩
  · cases activity with
    | none => simp [World.move, stepFront?, show world.front = none from mover]
    | some activity => simp [World.move, stepFront?, show world.front = some activity from mover, still activity rfl]
  · cases found : world.thread? id with
    | none => simp [World.move, step?, found]
    | some thread =>
        have here : activity = some thread.activity := by rw [← mover, mover?, found, Option.map_some]
        simp [World.move, step?, found, still thread.activity here]

theorem settled_frame (player : Player) (quiet : player.spawns = []) (stage : List (Nat × String)) :
    Player.frame { player with outbox := [], stage := stage } = player.frame := by
  have told : Player.spawns { player with outbox := [], stage := stage } = player.spawns := quiet.symm
  simp only [Player.frame, told]
  rfl

end World

theorem Activity.destiny_ground (activity : Activity) {player other : Player} (same : other.ground = player.ground) :
    activity.destiny other = activity.destiny player := by
  cases activity with
  | running execution caller =>
      cases caller with
      | pilot pilot epoch => simp only [Activity.destiny, same]
      | _ => rfl
  | _ => simp only [Activity.destiny, same]

theorem Activity.aboard_going (activity : Activity) (pilot : Pilot) (layer : Nat) (aboard : activity.Aboard pilot layer) :
    activity.isOver = false := by
  cases activity with
  | finished reply => exact aboard.elim
  | _ => rfl

def Activity.isSteering : Activity → Bool
  | .steering _ => true
  | _ => false

end Storyline
