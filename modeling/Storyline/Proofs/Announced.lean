import Storyline.Proofs.Standoff

set_option autoImplicit false

/-!
Playback as announced. As long as requests are made one after another, playback is on or off as last announced: only a new loop
turns it on, and whoever replaces the state has turned it off.
-/

namespace Storyline

/-! ### Who turns playback on -/

-- Of the pilots only the loops go on by themselves.
def Pilot.isLoop : Pilot → Bool
  | .loop _ => true
  | .trip _ => false

theorem Activity.pilot_minor (activity : Activity) (pilot : Pilot) (helm : activity.pilot? = some pilot) :
    activity.isMinor = pilot.isLoop := by
  cases activity with
  | steering own | advancing own =>
      obtain rfl := Option.some.inj helm
      cases own <;> rfl
  | awaitingInput _ _ _ => exact Option.some.inj helm ▸ rfl
  | running execution caller =>
      cases caller with
      | pilot own epoch =>
          obtain rfl := Option.some.inj helm
          cases own <;> rfl
      | _ => cases helm
  | _ => cases helm

theorem becomes_minor {player : Player} {activity successor : Activity} (becomes : activity.Becomes player successor)
    (minor : activity.isMinor = true) : successor.isMinor = true := by
  cases becomes with
  | rests _ _ _ => cases minor
  | holds _ _ pilot next helm hold _ same =>
      rw [activity.pilot_minor pilot helm] at minor
      rw [successor.pilot_minor next hold]
      rcases same with rfl | rfl
      · exact minor
      · cases pilot <;> exact minor
  | visits pilot => cases pilot <;> exact minor
  | goes _ _ caller =>
      cases caller with
      | pilot own epoch => cases own <;> exact minor
      | _ => rfl
  | listens _ _ _ _ again =>
      cases successor with
      | listening _ => rfl
      | completing role sequel =>
          cases sequel with
          | listen inlet => rfl
          | _ => cases again
      | _ => cases again
  | embarks _ _ _ => cases minor
  | _ => rfl

namespace Player

theorem advance_loop_generation (player : Player) (generation : Nat) :
    (player.advancePilot (.loop generation)).2.playback.generation = player.playback.generation := by
  have advanced := ((advance_edits player generation).kept.pilots rfl).1
  cases found : player.advance generation with
  | mk outcome after =>
      rw [found] at advanced
      simp only [advancePilot, Pilot.generation, found]
      cases outcome with
      | moved => exact advanced
      | stale => exact advanced
      | atEnd => exact ((end_loop_edits after generation).kept.pilots rfl).1.trans advanced
      | failed cause => exact ((halt_edits after generation cause).kept.pilots rfl).1.trans advanced

theorem resume_loop_generation (player : Player) (generation epoch : Nat) (result : Except Error Unit) :
    (player.resumeCaller (.pilot (.loop generation) epoch) result).2.playback.generation = player.playback.generation := by
  cases result with
  | error cause => exact ((halt_edits player generation cause).kept.pilots rfl).1
  | ok _ =>
      simp only [resumeCaller, after_visit_player]
      exact ((settle_edits player _ epoch true).kept.pilots rfl).1

end Player

variable {activity : Activity} {player : Player} {moved : Activity × Player} (step : activity.step? player = some moved)

include step in
theorem minor_generation (minor : activity.isMinor = true) : moved.2.playback.generation = player.playback.generation := by
  have within := activity.step_within player _ step
  cases activity with
  | steering pilot =>
      cases pilot with
      | trip trip => cases minor
      | loop generation => exact (within.pilots rfl).1
  | advancing pilot =>
      cases pilot with
      | trip trip => cases minor
      | loop generation => exact Option.some.inj step ▸ player.advance_loop_generation generation
  | running execution caller =>
      obtain ⟨⟨progress, between⟩, went, rest⟩ := Option.map_eq_some_iff.mp step
      have first := ((execution.step_within player progress between went).pilots (execution_footprint_pilots execution)).1
      cases progress with
      | going next => exact rest ▸ first
      | ended result =>
          have second : Within {} between (between.finish execution result).2 := (Player.finish_edits _ _ _).within rfl
          have finished := (second.pilots rfl).1.trans first
          cases caller with
          | nobody => exact rest ▸ finished
          | run run => exact rest ▸ (((Player.resume_caller_edits _ (.run run) _).within rfl : Within {} _ _).pilots rfl).1.trans finished
          | pilot pilot epoch =>
              cases pilot with
              | trip trip => cases minor
              | loop generation => exact rest ▸ (Player.resume_loop_generation _ generation epoch _).trans finished
  | completing role sequel =>
      obtain ⟨left, leaves, rest⟩ := Option.map_eq_some_iff.mp step
      have gone : Within {} player left := (Player.leave_rendezvous_edits player role none left leaves).within rfl
      have released := ((gone.trans ((Player.released_edits left).within rfl)).pilots rfl).1
      cases sequel with
      | travel trip => cases minor
      | reply => exact rest ▸ released
      | listen inlet => exact rest ▸ released
  | deferred _ _ | transient _ | listening _ | awaitingInput _ _ _ => exact (within.pilots rfl).1
  | finished reply => cases step
  | _ => cases minor

theorem step_minor {activity : Activity} {player : Player} {successor : Activity} {after : Player}
    (step : activity.step? player = some (successor, after)) (minor : activity.isMinor = true) :
    successor.isMinor = true ∧ after.playback.generation = player.playback.generation :=
  ⟨becomes_minor (activity.step_becomes player _ step) minor, minor_generation step minor⟩

-- Everything in flight is given up only after playback has been turned off.
def Halted (moved : Activity × Player) : Prop :=
  ∀ replacement, moved.1 = .draining replacement → moved.2.playback.playing = false

namespace Player

section Halted

variable (player : Player)

theorem give_up_halted (replacement : Replacement) : Halted (player.giveUp replacement) := by
  intro _ _
  have stopped : player.stop.playback.playing = false := by
    rw [stop, stopFor]
    by_cases on : player.playback.playing = true
    · rw [if_pos on]
      rfl
    · rw [if_neg on]
      exact Bool.eq_false_iff.mpr on
  exact stopped

theorem roll_back_to_halted (spot : Spot) : Halted (player.rollBackTo spot) := by
  rw [rollBackTo]
  split
  · exact give_up_halted _ _
  · split
    · exact give_up_halted _ _
    · intro _ drains
      cases drains

theorem rewind_to_index_halted (playlist : Playlist) (target : Nat) : Halted (player.rewindToIndex playlist target) := by
  rw [rewindToIndex]
  split
  · intro _ drains
    cases drains
  · split
    · intro _ drains
      cases drains
    · exact roll_back_to_halted player _

theorem handle_halted (signal : Signal) (sequel : Sequel) : Halted (player.handle signal sequel) := by
  have resumed (player : Player) : Halted (resumeAt sequel, player) := by
    intro _ drains
    cases sequel <;> cases drains
  cases signal with
  | «continue» =>
      simp only [handle]
      split
      · exact resumed _
      · split
        · exact resumed _
        · split
          · exact resumed _
          · intro _ drains
            cases drains
  | _ => exact resumed _

theorem ask_halted (request : Request) : Halted (player.ask request) := by
  have answered (result : Except Error Unit × Player) : Halted (answer result) := by
    intro _ drains
    obtain ⟨_ | _, _⟩ := result <;> cases drains
  cases request with
  | play script label => exact answered _
  | resume => exact answered _
  | jump target => exact answered _
  | call target spot => exact answered _
  | reset => exact give_up_halted player _
  | load save => exact give_up_halted player _
  | input signal => exact handle_halted player signal _
  | rewindLine line =>
      simp only [ask, rewindToLine]
      split
      · intro _ drains
        cases drains
      · split
        · intro _ drains
          cases drains
        · exact rewind_to_index_halted player _ _
  | rewindSpot spot =>
      simp only [ask, rewindToSpot]
      split
      · exact roll_back_to_halted player spot
      · split
        · intro _ drains
          cases drains
        · exact rewind_to_index_halted player _ _
  | transientNamed name script =>
      simp only [ask]
      split <;>
        (intro _ drains
         cases drains)
  | _ =>
      intro _ drains
      cases drains

end Halted

end Player

include step in
theorem step_halted : Halted moved := by
  obtain ⟨successor, after⟩ := moved
  rintro replacement rfl
  cases activity.step_becomes player _ step with
  | rests request =>
      have asked : player.ask request = (.draining replacement, after) := Option.some.inj step
      have halted := player.ask_halted request
      rw [asked] at halted
      exact halted replacement rfl
  | holds _ _ _ _ _ hold => cases hold
  | listens _ _ _ _ again => cases again

/-! ### Playback as announced -/

theorem replace_mirrored (player : Player) (replacement : Replacement) (off : player.playback.playing = false)
    (mirrored : player.Mirrored) : (player.replace replacement).2.Mirrored := by
  cases replacement with
  | reset =>
      have cleared : Within {} { player with playback := player.playback.clear } _ :=
        (Player.clear_all_visits_edits _ player.library.scripts).within rfl
      exact cleared.playing rfl
  | load save rollback =>
      have restored : (player.restore save).2.Mirrored := by
        cases place : save.spot with
        | none =>
            have cleared : ({ player with playback := player.playback.clear } : Player).Mirrored := off.symm.trans mirrored
            have adopted : Spares {} _ _ := (Player.adopt_edits { player with playback := player.playback.clear } save).spares rfl
            rw [Player.restore, place]
            exact adopted.mirrors rfl cleared
        | some spot => exact (player.restore_edits save).spared.mirrors (by rw [Save.facets, place]; rfl) mirrored
      rw [Player.replace_load]
      exact restored

-- Only a request that takes something over may turn playback off without a word, and it has been announced before.
include step in
theorem step_mirrored (mirrored : player.Mirrored)
    (off : ∀ replacement, activity = .draining replacement → player.playback.playing = false) : moved.2.Mirrored := by
  have spares := activity.step_spares player moved step
  cases activity with
  | draining replacement =>
      rw [Activity.draining_step step]
      exact replace_mirrored player replacement (off replacement rfl) mirrored
  | asked request => exact spares.mirrors (by cases request <;> rfl) mirrored
  | running execution caller => exact spares.mirrors (by cases caller <;> rfl) mirrored
  | _ => exact spares.mirrors rfl mirrored

include step in
theorem spawned_new (told : player.outbox = []) (new : Activity) (spawned : new ∈ moved.2.spawns) : new.isNew = true := by
  have nobody : moved.2.strays = [] := by
    rw [(activity.step_spares player moved step).strays, Player.strays, told]
    rfl
  by_contra major
  obtain ⟨notice, there, same⟩ := List.mem_filterMap.mp spawned
  have listed : new ∈ moved.2.strays := by
    refine List.mem_filterMap.mpr ⟨notice, List.mem_reverse.mp there, ?_⟩
    simp [same, Bool.eq_false_iff.mpr major]
  rw [nobody] at listed
  cases listed

theorem Activity.new_minor (activity : Activity) (new : activity.isNew = true) : activity.isMinor = true := by
  cases activity with
  | steering pilot =>
      cases pilot with
      | loop generation => rfl
      | trip trip => cases new
  | running execution caller =>
      cases caller with
      | nobody => rfl
      | _ => cases new
  | deferred _ _ | transient _ | listening _ => rfl
  | _ => cases new

include step in
theorem spawned_minor (told : player.outbox = []) (new : Activity) (spawned : new ∈ moved.2.spawns) : new.isMinor = true :=
  new.new_minor (spawned_new step told new spawned)

namespace World

structure Mirroring (world : World) : Prop where
  mirrored : world.player.Mirrored
  minor : ∀ activity ∈ world.threads.map Thread.activity, activity.isMinor = true
  halted : ∀ replacement, world.front = some (.draining replacement) → world.player.playback.playing = false

theorem thread_goes (world : World) (id : Nat) (next : World) (player : Player) (new : Thread) (turns : Nat)
    (moved : { world with
      player := player
      threads := world.threads.map fun (other : Thread) => if other.id = id then new else other
      turns := turns }.deliver (some id) = next) :
    next.player = { player with outbox := [] } ∧ next.front = world.front ∧
      ∀ other ∈ next.threads.map Thread.activity,
        other = new.activity ∨ other ∈ world.threads.map Thread.activity ∨ other ∈ player.spawns := by
  obtain ⟨told, front, threads⟩ := deliver_spec { world with
    player := player
    threads := world.threads.map fun (other : Thread) => if other.id = id then new else other
    turns := turns } (some id)
  rw [moved] at told front threads
  refine ⟨told, front, fun other member => ?_⟩
  rw [threads] at member
  rcases List.mem_append.mp member with kept | spawned
  · obtain ⟨_, placed, rfl⟩ := List.mem_map.mp kept
    obtain ⟨old, there, rfl⟩ := List.mem_map.mp placed
    by_cases own : old.id = id
    · rw [if_pos own]
      exact .inl rfl
    · rw [if_neg own]
      exact .inr (.inl (List.mem_map_of_mem there))
  · exact .inr (.inr spawned)

theorem thread_ends (world : World) (id : Nat) (next : World) (player : Player) (reply : Reply)
    (moved : { world with player := player, threads := world.threads.filter fun other => other.id ≠ id }.deliver none = next) :
    next.player = { player with outbox := [] } ∧ next.front = world.front ∧
      ∀ other ∈ next.threads.map Thread.activity,
        other = .finished reply ∨ other ∈ world.threads.map Thread.activity ∨ other ∈ player.spawns := by
  obtain ⟨told, front, threads⟩ := deliver_spec
    { world with player := player, threads := world.threads.filter fun other => other.id ≠ id } none
  rw [moved] at told front threads
  refine ⟨told, front, fun other member => ?_⟩
  rw [threads] at member
  exact .inr ((List.mem_append.mp member).imp_left fun kept => (List.filter_sublist.map _).subset kept)

-- A thread moves, and whoever is in front stays there.
theorem thread_moves (world : World) (id : Nat) (next : World) (moved : world.step? id = some next) :
    ∃ activity ∈ world.threads.map Thread.activity, ∃ successor player stage,
      activity.step? world.player = some (successor, player) ∧ next.player = { player with outbox := [], stage := stage } ∧
      next.front = world.front ∧
      ∀ other ∈ next.threads.map Thread.activity,
        other = successor ∨ other ∈ world.threads.map Thread.activity ∨ other ∈ player.spawns := by
  obtain ⟨thread, found, moved⟩ := Option.bind_eq_some_iff.mp moved
  obtain ⟨⟨successor, player⟩, step, moved⟩ := Option.map_eq_some_iff.mp moved
  have mover : thread.activity ∈ world.threads.map Thread.activity := List.mem_map_of_mem (List.mem_of_find?_eq_some found)
  cases successor with
  | finished reply =>
      cases noted : thread.report reply player with
      | none =>
          simp only [noted] at moved
          exact ⟨_, mover, _, player, player.stage, step, thread_ends world id next player reply moved⟩
      | some text =>
          simp only [noted] at moved
          exact ⟨_, mover, _, player, _, step, thread_ends world id next (player.note text) reply moved⟩
  | _ =>
      refine ⟨_, mover, _, player, player.stage, step, ?_⟩
      exact thread_goes world id next player _ _ moved

-- Whoever is in front moves, and the threads stay.
theorem front_moves (world : World) (next : World) (moved : world.stepFront? = some next) :
    ∃ activity successor player, world.front = some activity ∧ activity.step? world.player = some (successor, player) ∧
      next.player = { player with outbox := [] } ∧ next.front = some successor ∧
      ∀ other ∈ next.threads.map Thread.activity, other ∈ world.threads.map Thread.activity ∨ other ∈ player.spawns := by
  obtain ⟨activity, front, moved⟩ := Option.bind_eq_some_iff.mp moved
  obtain ⟨⟨successor, player⟩, step, moved⟩ := Option.map_eq_some_iff.mp moved
  obtain ⟨told, kept, threads⟩ := deliver_spec
    { world with player := player, front := some successor, turns := world.turns + 1 } none
  rw [moved] at told kept threads
  refine ⟨activity, successor, player, front, step, told, kept, fun other member => ?_⟩
  rw [threads] at member
  exact List.mem_append.mp member

theorem move_mirroring (world : World) (numbered : world.Numbered) (mirroring : world.Mirroring) (move : Move)
    (awaits : world.Awaits move) : (world.move move).Mirroring := by
  obtain ⟨mirrored, minor, halted⟩ := mirroring
  cases move with
  | thread id =>
      cases moved : world.step? id with
      | none => simpa [World.move, moved] using Mirroring.mk mirrored minor halted
      | some next =>
          obtain ⟨activity, there, successor, player, stage, step, told, front, threads⟩ := thread_moves world id next moved
          have own := minor activity there
          obtain ⟨stays, same⟩ := step_minor step own
          have rises := (activity.step_spares world.player _ step).rises
          simp only [World.move, moved, Option.getD_some]
          refine ⟨?_, fun other member => ?_, fun replacement drains => ?_⟩
          · rw [told]
            apply step_mirrored step mirrored
            rintro replacement rfl
            cases own
          · rcases threads other member with rfl | old | spawned
            · exact stays
            · exact minor other old
            · exact spawned_minor step numbered.told other spawned
          · -- a loop that goes on by itself is not a new one
            rw [front] at drains
            have off := halted replacement drains
            rw [told]
            by_contra on
            rcases rises.loop (Bool.not_eq_false _ ▸ on) with before | later
            · rw [off] at before
              cases before
            · exact Nat.lt_irrefl _ (same ▸ later)
  | front =>
      cases moved : world.stepFront? with
      | none => simpa [World.move, moved] using Mirroring.mk mirrored minor halted
      | some next =>
          obtain ⟨activity, successor, player, infront, step, told, front, threads⟩ := front_moves world next moved
          simp only [World.move, moved, Option.getD_some]
          refine ⟨?_, fun other member => ?_, fun replacement drains => ?_⟩
          · rw [told]
            apply step_mirrored step mirrored
            rintro replacement rfl
            exact halted replacement infront
          · rcases threads other member with old | spawned
            · exact minor other old
            · exact spawned_minor step numbered.told other spawned
          · rw [told]
            rw [front] at drains
            exact step_halted step replacement (Option.some.inj drains)
  | ask request =>
      refine ⟨mirrored, minor, fun replacement drains => ?_⟩
      cases drains
  | leave =>
      refine ⟨mirrored, minor, fun replacement drains => ?_⟩
      cases drains
  | background request report => exact awaits.elim
  | pass time => exact ⟨mirrored, minor, halted⟩
  | arrange queue postponed => exact ⟨mirrored, minor, halted⟩

end World

end Storyline
