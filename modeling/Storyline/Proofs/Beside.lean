import Storyline.Proofs.Abandonment
import Storyline.Proofs.Layout

set_option autoImplicit false

/-!
What runs beside the caret. A playlist without jumps, calls, returns and stops that is played as a transient leaves the main
story alone, and so does everything that comes of it: its commands in flight, those that nobody waits for, and the delayed
blocks inside it, at every depth. Such activities share the rendezvous and the commands in flight with the main story, and
nothing else of it.
-/

namespace Storyline

/-! ### Commands that leave the story alone -/

-- A kind that an application adds may do anything.
def Kind.isQuiet : Kind → Bool
  | .goto _ | .gosub _ | .ret | .stop | .custom _ => false
  | _ => true

-- Beside the caret, input is not awaited and nothing is masked.
def Effect.isQuiet : Effect → Bool
  | .jump _ | .call _ | .goBack | .halt | .setSkip .. | .setAuto _ | .setWaiting _ => false
  | _ => true

theorem Kind.effects_quiet (kind : Kind) (quiet : kind.isQuiet = true) : ∀ effect ∈ kind.effects, effect.isQuiet = true := by
  cases kind with
  | goto target => cases quiet
  | gosub target => cases quiet
  | ret => cases quiet
  | stop => cases quiet
  | custom command => cases quiet
  | print line =>
      intro effect member
      rcases List.mem_cons.mp member with rfl | asks
      · rfl
      · split at asks
        · exact List.mem_singleton.mp asks ▸ rfl
        · cases asks
  | _ => simp [Kind.effects, Effect.isQuiet]

namespace Playlist

def Quiet (p : Playlist) : Prop := ∀ command ∈ p.commands.toList, command.kind.isQuiet = true

theorem quiet_command (p : Playlist) (quiet : p.Quiet) (index : Nat) (command : Command)
    (found : p.command? index = some command) : command.kind.isQuiet = true :=
  quiet command (Array.mem_toList_iff.mpr (Array.mem_of_getElem? found))

theorem extract_quiet (p : Playlist) (quiet : p.Quiet) (host : Nat) (body : Playlist) (extracted : p.extract host = .ok body) :
    body.Quiet := by
  obtain ⟨rfl, _⟩ := (build_ok_iff _ _ _).mp extracted
  intro command member
  obtain ⟨inner, taken, rfl⟩ := List.mem_map.mp member
  exact quiet inner (List.mem_of_mem_drop (List.mem_of_mem_take taken))

end Playlist

/-! ### Activities beside the caret -/

structure Execution.Aside (execution : Execution) : Prop where
  lane : execution.lane = .transient
  playlist : execution.loaded.playlist.Quiet
  kind : execution.command.kind.isQuiet = true
  effects : ∀ effect ∈ execution.effects, effect.isQuiet = true

def Caller.Aside : Caller → Prop
  | .nobody => True
  | .run caller => caller.loaded.playlist.Quiet
  | .pilot _ _ => False

def Activity.Aside : Activity → Prop
  | .asked (.transient _ playlist) => playlist.Quiet
  | .transient run | .deferred run _ => run.loaded.playlist.Quiet
  | .running execution caller => execution.Aside ∧ caller.Aside
  | .finished _ => True
  | _ => False

-- The playlist that is about to be played beside the caret, or to be gone on with.
def Activity.playsBeside? : Activity → Option Playlist
  | .asked (.transient _ playlist) => some playlist
  | .deferred run _ | .transient run => some run.loaded.playlist
  | _ => none

-- The main story stays as it is, and whatever is started runs beside the caret too.
structure Apart (before after : Player) : Prop where
  playback : after.playback = before.playback
  played : after.played = before.played
  history : after.history = before.history
  begets : ∀ activity ∈ after.spawns, activity ∈ before.spawns ∨ activity.Aside

namespace Apart

variable {before between after : Player}

theorem beside (same : (after.playback, after.played, after.history, after.outbox) =
    (before.playback, before.played, before.history, before.outbox)) : Apart before after := by
  simp only [Prod.mk.injEq] at same
  obtain ⟨playback, played, history, outbox⟩ := same
  exact ⟨playback, played, history, fun activity member => .inl (by rwa [Player.spawns, outbox] at member)⟩

theorem refl (player : Player) : Apart player player := beside rfl

theorem trans (first : Apart before between) (second : Apart between after) : Apart before after :=
  ⟨second.playback.trans first.playback, second.played.trans first.played, second.history.trans first.history,
    fun activity member => (second.begets activity member).elim (first.begets activity) .inr⟩

theorem since (apart : Apart between after) (same : (between.playback, between.played, between.history, between.outbox) =
    (before.playback, before.played, before.history, before.outbox)) : Apart before after :=
  (beside same).trans apart

end Apart

namespace Player

section Operations

variable (player : Player)

theorem tell_apart (notice : Notice) (aside : ∀ activity ∈ notice.spawned?, activity.Aside) :
    Apart player (player.tell notice) := by
  refine ⟨rfl, rfl, rfl, fun activity member => ?_⟩
  rw [spawns, tell, List.reverse_cons, List.filterMap_append] at member
  rcases List.mem_append.mp member with old | new
  · exact .inl old
  · obtain ⟨other, told, spawned⟩ := List.mem_filterMap.mp new
    rw [List.mem_singleton.mp told] at spawned
    exact .inr (aside activity spawned)

theorem start_beside_apart (activity : Activity) (aside : activity.Aside) : Apart player (player.tell (.spawned activity)) :=
  tell_apart player _ fun _ spawned => Option.some.inj spawned ▸ aside

end Operations

end Player

-- A change of the facet leaves the main story alone and starts nobody.
def Facet.offStory : Facet → Bool
  | .beside | .store | .library | .visits | .launch | .ending | .parking | .rendezvous => true
  | _ => false

theorem Edit.apart {facet : Facet} {before after : Player} (edit : Edit facet before after) (off : facet.offStory = true) :
    Apart before after := by
  have told (player : Player) (notice : Notice) (nobody : notice.spawned? = none) : Apart player (player.tell notice) :=
    player.tell_apart notice fun _ spawned => by
      rw [nobody] at spawned
      cases spawned
  cases edit with
  | tell _ notice nobody => exact told before notice nobody
  | launch | ending | parking => exact .trans ((told _ .executingChanged rfl).since rfl) (.beside rfl)
  | aside | publish | store | library | visits | enter | conclude => exact .beside rfl
  | _ => cases off

theorem Edits.apart {facets : List Facet} {before after : Player} (edits : Edits facets before after)
    (off : facets.all Facet.offStory = true) : Apart before after :=
  edits.lift Apart off rfl .refl .trans Edit.apart

namespace Player

section Moves

variable (player : Player)

theorem launch_aside (loaded : Loaded) (index : Nat) (command : Command) (playlist : loaded.playlist.Quiet)
    (quiet : command.kind.isQuiet = true) : (player.launch loaded index command .transient).1.Aside :=
  ⟨rfl, playlist, quiet, fun _ member => (List.not_mem_nil member).elim⟩

theorem schedule_apart (body : Playlist) (quiet : body.Quiet) (millis : UInt64) : Apart player (player.schedule body millis) := by
  refine (start_beside_apart (player.withLibrary (player.library.load body).2) _ ?_).since rfl
  split
  · exact quiet
  · exact quiet

/-! ### Transients -/

-- A move beside the caret, and what it comes to.
def Strolls (moved : Activity × Player) : Prop := moved.1.Aside ∧ Apart player moved.2

variable {player} in
theorem Strolls.after {between : Player} {moved : Activity × Player} (strolls : between.Strolls moved)
    (apart : Apart player between) : player.Strolls moved := ⟨strolls.1, apart.trans strolls.2⟩

theorem continue_run_strolls (run : Run) (quiet : run.loaded.playlist.Quiet) (passed : Bool) :
    player.Strolls (player.continueRun run passed) := by
  have followed := (player.next_edits run.loaded run.index passed).apart rfl
  unfold continueRun
  split
  · next found =>
      rw [found] at followed
      exact ⟨quiet, followed⟩
  · next found =>
      rw [found] at followed
      exact ⟨trivial, followed.trans (.beside rfl)⟩

theorem step_run_strolls (run : Run) (quiet : run.loaded.playlist.Quiet) : player.Strolls (player.stepRun run) := by
  unfold stepRun
  split
  · exact ⟨trivial, .beside rfl⟩
  · next command found =>
      have kind := run.loaded.playlist.quiet_command quiet run.index command found
      have judged := (player.guard_edits command).apart rfl
      split
      · exact ⟨trivial, .refl _⟩
      · split
        · next left_ =>
            rw [left_] at judged
            exact (continue_run_strolls _ run quiet false).after judged
        · next judge passed =>
            rw [passed] at judged
            have launched := judged.trans ((Edit.launch judge run.loaded run.index command .transient).apart rfl)
            have aside := launch_aside judge run.loaded run.index command quiet kind
            simp only
            split
            · exact ⟨⟨aside, quiet⟩, launched⟩
            · exact (continue_run_strolls _ run quiet true).after
                (launched.trans (start_beside_apart _ _ ⟨aside, trivial⟩))

theorem resume_caller_strolls (caller : Caller) (aside : caller.Aside) (result : Except Error Unit) :
    player.Strolls (player.resumeCaller caller result) := by
  cases caller with
  | nobody => exact ⟨trivial, .refl _⟩
  | pilot pilot epoch => exact aside.elim
  | run run =>
      cases result with
      | ok _ => exact continue_run_strolls player run aside true
      | error cause => exact ⟨trivial, .beside rfl⟩

end Moves

end Player

namespace Execution

variable {execution : Execution} (aside : execution.Aside)
include aside

theorem Aside.push {effects : List Effect} (quiet : ∀ effect ∈ effects, effect.isQuiet = true) : (execution.push effects).Aside :=
  ⟨aside.lane, aside.playlist, aside.kind, fun effect member =>
    (List.mem_append.mp member).elim (quiet effect) (aside.effects effect)⟩

theorem Aside.await (wait : Option Wait) : Aside { execution with wait := wait } :=
  ⟨aside.lane, aside.playlist, aside.kind, aside.effects⟩

end Execution

-- What a command in flight beside the caret comes to by a move that leaves the story alone.
structure Execution.Roams (player : Player) (moved : Execution.Progress × Player) : Prop where
  going : ∀ execution, moved.1 = .going execution → execution.Aside
  apart : Apart player moved.2

namespace Execution

variable {execution : Execution} (aside : execution.Aside) {player after : Player}

include aside in
theorem roams_on (apart : Apart player after) : Roams player (execution.proceed after) :=
  ⟨fun _ same => Progress.going.inj same ▸ aside, apart⟩

include aside in
theorem roams_waiting (wait : Wait) (apart : Apart player after) : Roams player (execution.await wait after) :=
  ⟨fun _ same => Progress.going.inj same ▸ aside.await _, apart⟩

theorem roams_over (result : Except Error Unit) (apart : Apart player after) : Roams player (.ended result, after) :=
  ⟨fun _ same => (by cases same), apart⟩

include aside

theorem unless_failed_roams (changed : Except Error Unit × Player) (apart : Apart player changed.2) :
    Roams player (execution.unlessFailed changed) := by
  obtain ⟨result, after⟩ := changed
  cases result with
  | ok _ => exact roams_on aside apart
  | error cause => exact roams_over _ apart

theorem play_roams (cue : Cue) (token : Token) : Roams player (execution.play cue token player) := by
  have opened := (player.notes_edits cue.opening).apart rfl
  unfold Execution.play
  simp only
  split
  · exact roams_over _ opened
  · exact roams_waiting aside _ opened
  · exact roams_on aside (opened.trans ((Player.notes_edits _ _).apart rfl))

theorem perform_roams (effect : Effect) (quiet : effect.isQuiet = true) : Roams player (execution.perform effect player) := by
  have beside : ¬execution.lane = .main := by rw [aside.lane]; decide
  cases effect with
  | jump target => cases quiet
  | call target => cases quiet
  | goBack => cases quiet
  | halt => cases quiet
  | setSkip enabled line => cases quiet
  | setAuto enabled => cases quiet
  | setWaiting waiting => cases quiet
  | assign name op value =>
      simp only [perform]
      split
      · exact roams_on aside (.beside rfl)
      · exact roams_over _ (.refl _)
  | say line => exact play_roams aside _ _
  | askInput =>
      simp only [perform, if_neg beside]
      exact roams_on aside (.refl _)
  | rest millis =>
      simp only [perform]
      split
      · exact roams_on aside (.refl _)
      · exact roams_waiting aside _ (.refl _)
  | sleep what millis => exact roams_waiting aside _ (.refl _)
  | pause millis => exact roams_waiting aside _ (.refl _)
  | schedule millis =>
      simp only [perform]
      split
      · exact roams_over _ (.refl _)
      · next body extracted =>
          have inner := execution.loaded.playlist.extract_quiet aside.playlist execution.index body extracted
          exact roams_on aside (player.schedule_apart body inner millis)
  | barrier =>
      simp only [perform]
      split
      · exact roams_on (aside.push (by simp [Effect.isQuiet])) (.refl _)
      · exact roams_on aside (.refl _)
  | awaitOthers =>
      simp only [perform]
      split
      · exact roams_on aside (.refl _)
      · split
        · exact roams_on (aside.push (by simp [Effect.isQuiet])) (.refl _)
        · exact roams_waiting aside _ (.refl _)
  | completeOthers => exact roams_waiting aside _ ((player.enter_rendezvous_edits none (some execution.id)).apart rfl)
  | waitOthers => exact roams_waiting aside _ (.refl _)
  | transition millis =>
      -- the mask belongs to the caret
      simp only [perform, mask, if_neg beside]
      split
      · exact roams_on (aside.push (by simp [Effect.isQuiet])) (.refl _)
      · split <;> exact roams_on (aside.push (by simp [Effect.isQuiet])) (.refl _)
  | capture =>
      have opened := (player.notes_edits player.presenter.capture.opening).apart rfl
      simp only [perform]
      split
      · exact roams_over _ opened
      · exact roams_waiting aside _ opened
      · exact roams_on aside opened
  | cover =>
      simp only [perform, mask, if_neg beside]
      exact roams_on aside (.refl _)
  | blend millis fresh => exact play_roams aside _ _
  | note line => exact roams_on aside (.beside rfl)
  | fail cause => exact roams_over _ (.refl _)

theorem step_roams (moved : Progress × Player) (step : execution.step? player = some moved) : Roams player moved := by
  unfold Execution.step? at step
  split at step
  · next wait _ =>
      obtain ⟨woken, wakes, rfl⟩ := Option.map_eq_some_iff.mp step
      exact unless_failed_roams (aside.await none) woken
        ((execution.wake_edits wait player woken wakes).apart (by cases wait <;> rfl))
  · split at step
    · split at step
      · exact Option.some.inj step ▸ roams_over _ (.refl _)
      · next effect effects pending =>
          obtain rfl := Option.some.inj step
          have quiet (other : Effect) (member : other ∈ effect :: effects) : other.isQuiet = true :=
            aside.effects other (pending ▸ member)
          have rest : Aside { execution with effects := effects } :=
            ⟨aside.lane, aside.playlist, aside.kind, fun other member => quiet other (List.mem_cons_of_mem _ member)⟩
          exact perform_roams rest effect (quiet effect List.mem_cons_self)
    · split at step
      · exact Option.some.inj step ▸ roams_over _ (.refl _)
      · obtain rfl := Option.some.inj step
        have begun : Aside { execution with begun := true, effects := execution.command.kind.effects } :=
          ⟨aside.lane, aside.playlist, aside.kind, execution.command.kind.effects_quiet aside.kind⟩
        exact roams_on begun (.refl _)

end Execution

theorem step_strolls (activity : Activity) (aside : activity.Aside) (player : Player) (moved : Activity × Player)
    (step : activity.step? player = some moved) : player.Strolls moved := by
  cases activity with
  | asked request =>
      cases request with
      | transient name playlist =>
          obtain rfl := Option.some.inj step
          refine ⟨trivial, (Player.start_beside_apart _ _ ?_).since rfl⟩
          exact aside
      | _ => exact aside.elim
  | transient run => exact Option.some.inj step ▸ player.step_run_strolls run aside
  | deferred run deadline =>
      simp only [Activity.step?] at step
      split at step
      · exact Option.some.inj step ▸ ⟨trivial, .refl _⟩
      · split at step
        · exact Option.some.inj step ▸ ⟨aside, .refl _⟩
        · cases step
  | running execution caller =>
      obtain ⟨⟨progress, between⟩, went, rfl⟩ := Option.map_eq_some_iff.mp step
      have roams := Execution.step_roams aside.1 _ went
      cases progress with
      | going next => exact ⟨⟨roams.going next rfl, aside.2⟩, roams.apart⟩
      | ended result =>
          have finished := roams.apart.trans ((between.finish_edits execution result).apart rfl)
          exact (Player.resume_caller_strolls _ caller aside.2 _).after finished
  | finished reply => cases step
  | _ => exact aside.elim

/-! ### Everything that comes of a transient -/

namespace World

-- Threads that are started by a move of one of the given threads.
def born (world : World) (ids : List Nat) : Move → List Nat
  | .thread id =>
      if id ∈ ids then List.range' world.nextThread ((world.move (.thread id)).nextThread - world.nextThread) else []
  | _ => []

-- The given threads and all that have come of them by the moves.
def kin (world : World) (ids : List Nat) : List Move → List Nat
  | [] => ids
  | move :: moves => (world.move move).kin (ids ++ world.born ids move) moves

theorem fold_pass_new (giver : Option Nat) (notices : List Notice) (world : World) (thread : Thread)
    (member : thread ∈ (notices.foldl (pass giver) world).threads) :
    thread ∈ world.threads ∨ thread.activity ∈ notices.filterMap Notice.spawned? := by
  induction notices generalizing world with
  | nil => exact .inl member
  | cons notice notices ih =>
      rcases ih (pass giver world notice) member with old | new
      · cases notice with
        | spawned activity =>
            rcases List.mem_append.mp old with old | new
            · exact .inl old
            · rw [List.mem_singleton.mp new]
              exact .inr List.mem_cons_self
        | _ => exact .inl old
      · refine .inr ?_
        rw [List.filterMap_cons]
        split
        · exact new
        · exact List.mem_cons_of_mem _ new

theorem deliver_new (world : World) (giver : Option Nat) (below : ∀ thread ∈ world.threads, thread.id < world.nextThread)
    (id : Nat) (thread : Thread) (found : (world.deliver giver).thread? id = some thread) (new : world.nextThread ≤ id) :
    thread.activity ∈ world.player.spawns := by
  have here : thread.id = id := by simpa using List.find?_some found
  rcases fold_pass_new giver _ _ thread (List.mem_of_find?_eq_some found) with old | spawned
  · exact absurd (below thread old) (by omega)
  · exact spawned

theorem new_thread_spawned (world : World) (numbered : world.Numbered) (mover id : Nat) (new : world.nextThread ≤ id)
    (thread : Thread) (found : (world.move (.thread mover)).thread? id = some thread) :
    ∃ parent moved, world.thread? mover = some parent ∧ parent.activity.step? world.player = some moved ∧
      thread.activity ∈ moved.2.spawns := by
  cases stepped : world.step? mover with
  | none =>
      rw [World.move, stepped] at found
      have old := (thread_mem numbered found).1
      omega
  | some next =>
      rw [World.move, stepped, Option.getD_some] at found
      obtain ⟨parent, there, stepped⟩ := Option.bind_eq_some_iff.mp stepped
      obtain ⟨⟨successor, player⟩, step, stepped⟩ := Option.map_eq_some_iff.mp stepped
      refine ⟨parent, (successor, player), there, step, ?_⟩
      have ends (noted : Player) (outbox : noted.outbox = player.outbox)
          (moved : { world with
            player := noted
            threads := world.threads.filter fun other => other.id ≠ mover }.deliver none = next) :
          thread.activity ∈ player.spawns := by
        rw [← moved] at found
        have spawned := deliver_new { world with
          player := noted
          threads := world.threads.filter fun other => other.id ≠ mover } none
          (fun other member => numbered.below other (List.mem_of_mem_filter member)) id thread found new
        rwa [Player.spawns, outbox] at spawned
      have goes (since : Nat)
          (moved : { world with
            player := player
            threads := world.threads.map fun (other : Thread) =>
              if other.id = mover then { parent with activity := successor, since := since } else other
            turns := world.turns + 1 }.deliver (some mover) = next) :
          thread.activity ∈ player.spawns := by
        rw [← moved] at found
        refine deliver_new { world with
          player := player
          threads := world.threads.map fun (other : Thread) =>
            if other.id = mover then { parent with activity := successor, since := since } else other
          turns := world.turns + 1 } (some mover) (fun other member => ?_) id thread found new
        obtain ⟨before, old, rfl⟩ := List.mem_map.mp member
        split
        · exact numbered.below parent (List.mem_of_find?_eq_some there)
        · exact numbered.below before old
      cases successor with
      | finished reply =>
          refine ends _ ?_ stepped
          cases parent.report reply player <;> rfl
      | _ => exact goes _ stepped

-- The threads are there already, and what is still under way of them runs beside the caret.
structure Strolling (world : World) (ids : List Nat) : Prop where
  old : ∀ id ∈ ids, id < world.nextThread
  aside : ∀ id ∈ ids, ∀ thread, world.thread? id = some thread → thread.activity.Aside

section Strolling

variable (world : World) (numbered : world.Numbered)
include numbered

theorem strolling_stays (ids : List Nat) (strolling : world.Strolling ids) (move : Move) :
    (world.move move).Strolling ids := by
  refine ⟨fun id member => ?_, fun id member thread found => ?_⟩
  · exact Nat.lt_of_lt_of_le (strolling.old id member) (thread_stays world move id (strolling.old id member)).1
  · have old := strolling.old id member
    rcases (thread_stays world move id old).2 with same | ⟨rfl, before, ⟨successor, player⟩, there, step⟩
    · exact strolling.aside id member thread (same ▸ found)
    · have now := thread_moves_on world numbered old there step
      rw [mover?, found, Option.map_some] at now
      split at now
      · cases now
      · rw [Option.some.inj now]
        exact (step_strolls before.activity (strolling.aside id member before there) _ _ step).1

theorem strolling_move (ids : List Nat) (strolling : world.Strolling ids) (move : Move) :
    (world.move move).Strolling (ids ++ world.born ids move) := by
  have elder := strolling_stays world numbered ids strolling move
  have younger (id : Nat) (member : id ∈ world.born ids move) : ∃ mover ∈ ids, move = .thread mover ∧
      world.nextThread ≤ id ∧ id < (world.move move).nextThread := by
    cases move with
    | thread mover =>
        simp only [born] at member
        split at member
        · next own =>
            obtain ⟨above, below⟩ := List.mem_range'_1.mp member
            exact ⟨mover, own, rfl, above, by omega⟩
        · cases member
    | _ => cases member
  refine ⟨fun id member => ?_, fun id member thread found => ?_⟩
  · rcases List.mem_append.mp member with own | child
    · exact elder.old id own
    · obtain ⟨_, _, _, _, below⟩ := younger id child
      exact below
  · rcases List.mem_append.mp member with own | child
    · exact elder.aside id own thread found
    · obtain ⟨mover, own, rfl, above, _⟩ := younger id child
      obtain ⟨parent, moved, there, step, spawned⟩ := new_thread_spawned world numbered mover id above thread found
      have strolls := step_strolls parent.activity (strolling.aside mover own parent there) world.player moved step
      refine (strolls.2.begets _ spawned).resolve_left fun before => ?_
      rw [Player.spawns, numbered.told] at before
      cases before

theorem strolling_after (ids : List Nat) (strolling : world.Strolling ids) (moves : List Move) :
    (world.after moves).Strolling (world.kin ids moves) := by
  induction moves generalizing world ids with
  | nil => exact strolling
  | cons move moves ih => exact ih _ (move_comes world numbered move).2 _ (strolling_move world numbered ids strolling move)

theorem strolling_apart (ids : List Nat) (strolling : world.Strolling ids) (id : Nat) (member : id ∈ ids) :
    (world.move (.thread id)).player.playback = world.player.playback ∧
      (world.move (.thread id)).player.played = world.player.played ∧
      (world.move (.thread id)).player.history = world.player.history := by
  cases (move_comes world numbered (.thread id)).1 with
  | stays clock requests player => rw [player]; exact ⟨rfl, rfl, rfl⟩
  | moves activity successor others player stage mover _ _ step told _ =>
      obtain ⟨thread, there, rfl⟩ := Option.map_eq_some_iff.mp mover
      have apart := (step_strolls thread.activity (strolling.aside id member thread there) _ _ step).2
      rw [told]
      exact ⟨apart.playback, apart.played, apart.history⟩

end Strolling

theorem transients_leave_story_alone (start : World) (numbered : start.Numbered) (root : Nat) (thread : Thread)
    (there : start.thread? root = some thread) (playlist : Playlist) (plays : thread.activity.playsBeside? = some playlist)
    (quiet : ∀ command ∈ playlist.commands.toList, command.kind.isQuiet = true) (moves : List Move) (id : Nat)
    (member : id ∈ start.kin [root] moves) :
    let world := start.after moves
    let next := world.move (.thread id)
    next.player.playback = world.player.playback ∧ next.player.played = world.player.played ∧
      next.player.history = world.player.history := by
  have aside : thread.activity.Aside := by
    cases activity : thread.activity with
    | asked request =>
        rw [activity] at plays
        cases request with
        | transient name other => exact Option.some.inj plays ▸ quiet
        | _ => cases plays
    | deferred run deadline =>
        rw [activity] at plays
        obtain rfl : run.loaded.playlist = playlist := Option.some.inj plays
        exact quiet
    | transient run =>
        rw [activity] at plays
        obtain rfl : run.loaded.playlist = playlist := Option.some.inj plays
        exact quiet
    | _ => rw [activity] at plays; cases plays
  have strolling : start.Strolling [root] := by
    refine ⟨fun id own => ?_, fun id own other found => ?_⟩
    · exact List.mem_singleton.mp own ▸ (thread_mem numbered there).1
    · obtain rfl := List.mem_singleton.mp own
      exact Option.some.inj (there.symm.trans found) ▸ aside
  exact strolling_apart _ (after_numbered start numbered moves) _ (strolling_after start numbered _ strolling moves) id member

-- The story is at the input wait inside a transition, under the mask.
def meadow : World where
  player :=
    { draws := ⟨fun _ => 0, 0⟩
      library :=
        { scripts := [⟨0, "road", #[⟨0, ⟨"road", 0, 0⟩, none, true, .transition 0⟩,
            ⟨1, ⟨"road", 1, 0⟩, none, true, .waitInput⟩]⟩]
          nextHandle := 1 } }

def rain : Playlist :=
  ⟨"rain", #[⟨0, ⟨"rain", 0, 0⟩, none, true, .delay 0⟩, ⟨1, ⟨"rain", 1, 0⟩, none, true, .transition 5⟩,
    ⟨2, ⟨"rain", 2, 0⟩, none, false, .print { text := "drop" }⟩, ⟨0, ⟨"rain", 3, 0⟩, none, true, .await⟩]⟩

def rainComes : List Move :=
  [.ask (.play "road" none), .front, .leave] ++ List.replicate 14 (.thread 0) ++
    [.background (.transient "rain" rain) fun _ _ => none]

-- Up to the return visit of the transition in the delayed block, while the line in it is in flight.
def rainFalls : List Move := .thread 1 :: List.replicate 4 (.thread 2) ++ List.replicate 9 (.thread 3)

theorem rain_leaves_mask_alone :
    let start := meadow.after rainComes
    let world := start.after rainFalls
    let next := world.move (.thread 3)
    (∀ command ∈ rain.commands.toList, command.kind.isQuiet = true) ∧ start.kin [1] rainFalls = [1, 2, 3, 4] ∧
      world.player.raised = [(2, 0), (0, 0)] ∧ world.player.playback.mode.waiting = true ∧
      world.player.playback.masked = true ∧ next.player.playback = world.player.playback ∧
      next.player.played = world.player.played ∧ next.player.history = world.player.history := by
  have quiet : ∀ command ∈ rain.commands.toList, command.kind.isQuiet = true := by decide +kernel
  have family : (meadow.after rainComes).kin [1] rainFalls = [1, 2, 3, 4] := by decide +kernel
  have numbered : (meadow.after rainComes).Numbered := after_numbered meadow (numbered_new _ rfl) rainComes
  refine ⟨quiet, family, by decide +kernel, by decide +kernel, by decide +kernel, ?_⟩
  exact transients_leave_story_alone _ numbered 1 ⟨1, .asked (.transient "rain" rain), fun _ _ => none, 0⟩ rfl rain rfl quiet
    rainFalls 3 (by rw [family]; decide)

end World

end Storyline
