import Storyline.Proofs.Rollback

set_option autoImplicit false

/-!
Taking over a save. A load gives up everything in flight and then puts the save in place of what was there. With nothing in
flight both happen at once, and what is saved right after is the save that was loaded. Only a save without a spot has nothing
that could be playing or have run.
-/

namespace Storyline

/-! ### The place of a spot -/

namespace Playlist

-- The first command with the line and the inline place of the spot.
def FirstAt (p : Playlist) (spot : Spot) (index : Nat) : Prop :=
  (∃ command, p.command? index = some command ∧ command.spot.line = spot.line ∧ command.spot.inline = spot.inline) ∧
    ∀ earlier command, earlier < index → p.command? earlier = some command →
      ¬(command.spot.line = spot.line ∧ command.spot.inline = spot.inline)

theorem index_of_first (p : Playlist) (spot : Spot) (index : Nat) (found : p.indexOf? spot = some index) :
    p.script = spot.script ∧ p.FirstAt spot index := by
  rw [indexOf?] at found
  split at found
  · next script =>
      rw [indexByLine?, Array.findIdx?_eq_some_iff_getElem] at found
      obtain ⟨bound, here, first⟩ := found
      refine ⟨script.symm, ⟨p.commands[index], Array.getElem?_eq_getElem bound, by simpa using here⟩, ?_⟩
      rintro earlier command before there ⟨line, inline⟩
      have same : p.commands[earlier] = command :=
        Option.some.inj ((Array.getElem?_eq_getElem (Nat.lt_trans before bound)).symm.trans there)
      exact first earlier before (by simp [same, line, inline])
  · cases found

end Playlist

namespace Library

-- Why a spot has none.
inductive Displaced (library : Library) (spot : Spot) : Error → Prop where
  | script (cause : Error) (missing : library.require spot.script = .error cause) : Displaced library spot cause
  | spot (loaded : Loaded) (after : Library) (script : library.require spot.script = .ok (loaded, after))
      (missing : loaded.playlist.indexOf? spot = none) : Displaced library spot (.script (.spotNotFound spot))
  | inside (loaded : Loaded) (after : Library) (script : library.require spot.script = .ok (loaded, after))
      (index : Nat) (found : loaded.playlist.indexOf? spot = some index) (fault : StructuralError)
      (refused : loaded.playlist.ensureNavigable index = .error fault) : Displaced library spot (.structural fault)

section Places

variable {library after : Library} {spot : Spot} {loaded : Loaded} {index : Nat}
  (places : library.Places spot loaded after index)
include places

theorem Places.command : ∃ command, loaded.playlist.command? index = some command :=
  ⟨_, Array.getElem?_eq_getElem (loaded.playlist.index_of_lt spot index places.spot)⟩

theorem Places.own_spot (named : ∀ loaded ∈ library.scripts, loaded.playlist.Named) :
    ∃ command, loaded.playlist.command? index = some command ∧ command.spot = spot :=
  (library.require_fits library.registry.playlist_named named spot.script loaded after places.script).1.index_of spot index places.spot

end Places

end Library

namespace Player

variable (player : Player)

/-! ### Giving up and taking over -/

-- Everybody has been told.
def delivered (player : Player) (stage : List (Nat × String)) : Player := { player with outbox := [], stage := stage }

-- What a player is after it has given up everything in flight and told so.
def stopped (player : Player) (stage : List (Nat × String)) : Player :=
  { player with
    playback := { player.playback with playing := false }
    abandoned := player.abandoned + 1
    events := (if player.playback.playing then [Event.stopped player.playback.spot? .requested] else []) ++ player.events
    outbox := []
    stage := stage }

theorem give_up_stopped (stage : List (Nat × String)) :
    player.stop.abandon.delivered stage = player.stopped stage := by
  rw [stop, stopFor]
  split
  · next on =>
      rw [stopped, if_pos on]
      rfl
  · next off =>
      obtain ⟨config, rollbackConfig, presenter, library, store, history, played, draws, executing, rendezvous, abandoned,
        ⟨playing, generation, loaded⟩⟩ := player
      obtain rfl : playing = false := Bool.eq_false_iff.mpr off
      rfl

-- A start fails only where there is no command to start at.
theorem start_done (spot : Spot) (there : player.playback.spot? = some spot) :
    player.start.1 = .ok () := by
  rw [start, there]
  split <;> rfl

theorem adopt_done (save : Save)
    (there : save.spot.isSome = true → ∃ spot, player.playback.spot? = some spot) : (player.adopt save).1 = .ok () := by
  obtain ⟨events, outbox, same⟩ := player.adopt_eq save
  rw [same]
  simp only
  split
  · next plays =>
      obtain ⟨spot, here⟩ := there (Bool.and_eq_true_iff.mp plays).2
      exact start_done _ spot here
  · rfl

theorem adopt_unmasked (save : Save) : (player.adopt save).2.playback.masked = false := by
  have started (ready : Player) : ready.start.2.playback.masked = ready.playback.masked := by
    rw [start]
    split
    · rfl
    · split <;> rfl
  obtain ⟨events, outbox, same⟩ := player.adopt_eq save
  rw [same]
  simp only
  split
  · exact started _
  · rfl

theorem place_displaced (spot : Spot) (cause : Error) (after : Player)
    (refused : player.place spot = (.error cause, after)) :
    player.library.Displaced spot cause ∧
      (after = player ∨ ∃ loaded library, player.library.require spot.script = .ok (loaded, library) ∧
        after = player.withLibrary library) := by
  rw [place] at refused
  split at refused
  · next missing =>
      obtain ⟨same, rfl⟩ := Prod.mk.inj refused
      obtain rfl := Except.error.inj same
      exact ⟨.script _ missing, .inl rfl⟩
  · next loaded library required =>
      obtain ⟨result, rfl⟩ := Prod.mk.inj refused
      refine ⟨?_, .inr ⟨loaded, library, required, rfl⟩⟩
      split at result
      · next missing =>
          obtain rfl := Except.error.inj result
          exact .spot loaded library required missing
      · next index found =>
          split at result
          · next fault inside =>
              obtain rfl := Except.error.inj result
              exact .inside loaded library required index found fault inside
          · cases result

-- Only the place can be refused, and then nothing but the library has changed.
theorem restore_refused (save : Save) (cause : Error) (after : Player)
    (refused : player.restore save = (.error cause, after)) :
    ∃ spot, save.spot = some spot ∧ player.place spot = (.error cause, after) := by
  rw [restore] at refused
  split at refused
  · next nowhere =>
      have done := ({ player with playback := player.playback.clear } : Player).adopt_done save
        fun somewhere => by rw [nowhere] at somewhere; cases somewhere
      rw [refused] at done
      cases done
  · next spot somewhere =>
      refine ⟨spot, somewhere, ?_⟩
      split at refused
      · next found =>
          obtain ⟨same, rfl⟩ := Prod.mk.inj refused
          rw [found, Except.error.inj same]
      · next loaded index between found =>
          obtain ⟨_, _, places⟩ := player.place_places spot loaded index between found
          obtain ⟨command, there⟩ := places.command
          have done := ((between.clearVisits loaded).moveCaret loaded index save.executed).adopt_done save
            fun _ => ⟨command.spot, congrArg (Option.map Command.spot) there⟩
          rw [refused] at done
          cases done

theorem place_iff (spot : Spot) :
    (∃ place between, player.place spot = (.ok place, between)) ↔
      ∃ loaded library index, player.library.Places spot loaded library index := by
  constructor
  · rintro ⟨⟨loaded, index⟩, between, found⟩
    obtain ⟨library, _, places⟩ := player.place_places spot loaded index between found
    exact ⟨loaded, library, index, places⟩
  · rintro ⟨loaded, library, index, script, here, outside⟩
    refine ⟨(loaded, index), player.withLibrary library, ?_⟩
    simp only [place, script, here, outside]

theorem restore_iff (save : Save) :
    (player.restore save).1 = .ok () ↔
      ∀ spot, save.spot = some spot → ∃ loaded library index, player.library.Places spot loaded library index := by
  cases restored : player.restore save with
  | mk result after =>
      cases result with
      | error cause =>
          obtain ⟨spot, somewhere, refused⟩ := player.restore_refused save cause after restored
          refine iff_of_false (fun same => by cases same) fun placed => ?_
          obtain ⟨place, between, found⟩ := (player.place_iff spot).mpr (placed spot somewhere)
          cases refused.symm.trans found
      | ok =>
          refine iff_of_true rfl fun spot somewhere => (player.place_iff spot).mp ?_
          simp only [restore, somewhere] at restored
          split at restored
          · cases restored
          · next loaded index between found => exact ⟨_, _, found⟩

theorem replace_done (save : Save) :
    (player.replace (.load save false)).1 = .done ↔ (player.restore save).1 = .ok () := by
  rw [replace]
  split
  · next done => simp [done]
  · next refused => simp [refused]

theorem replace_failed (save : Save) (rollback : Bool) (cause : Error) :
    (player.replace (.load save rollback)).1 = .failed cause ↔ (player.restore save).1 = .error cause := by
  rw [replace]
  split
  · next done => cases rollback <;> simp [done]
  · next refused => simp [refused]

-- What there is of a save once it is taken over. Without a spot nothing is under the caret, so nothing plays or has run.
structure TakesOver (save : Save) (playback : Playback) : Prop where
  saved : playback.save =
    { save with playing := save.playing && save.spot.isSome, executed := save.executed && save.spot.isSome }
  unskipped : playback.mode.skip = false
  unmasked : playback.masked = false
  nowhere : save.spot = none → playback.loaded = none
  place : ∀ spot, save.spot = some spot → ∃ loaded, playback.loaded = some loaded ∧ loaded.playlist.script = spot.script ∧
    loaded.playlist.FirstAt spot playback.index

theorem restore_takes_over (named : ∀ loaded ∈ player.library.scripts, loaded.playlist.Named)
    (off : player.playback.playing = false) (save : Save) (after : Player) (done : player.restore save = (.ok (), after)) :
    TakesOver save after.playback := by
  cases somewhere : save.spot with
  | none =>
      simp only [restore, somewhere] at done
      have unmasked := adopt_unmasked { player with playback := player.playback.clear } save
      rw [done] at unmasked
      obtain ⟨_, ⟨there, _, ran⟩, returns, ⟨skip, waiting⟩, playing⟩ :=
        adopt_adopted { player with playback := player.playback.clear } save after rfl done
      have nothing : after.playback.spot? = none := by
        rw [Playback.spot?, Playback.command?, there]
        rfl
      refine ⟨?_, skip, unmasked, fun _ => there, fun spot found => by rw [somewhere] at found; cases found⟩
      rw [Playback.save, playing, ran, waiting, returns, nothing, somewhere, Option.isSome_none, Bool.and_false, Bool.and_false]
      rfl
  | some spot =>
      simp only [restore, somewhere] at done
      split at done
      · cases done
      · next loaded index between found =>
          obtain ⟨library, rfl, places⟩ := player.place_places spot loaded index between found
          obtain ⟨command, here, own⟩ := places.own_spot named
          let ready := ((player.withLibrary library).clearVisits loaded).moveCaret loaded index save.executed
          have unmasked := ready.adopt_unmasked save
          rw [done] at unmasked
          obtain ⟨_, ⟨there, at_, ran⟩, returns, ⟨skip, waiting⟩, playing⟩ := ready.adopt_adopted save after off done
          have under : after.playback.spot? = some spot := by
            rw [Playback.spot?, Playback.command?, there, at_, ← own]
            exact congrArg (Option.map Command.spot) here
          refine ⟨?_, skip, unmasked, fun nowhere => ?_, fun other same => ?_⟩
          · rw [Playback.save, playing, ran, waiting, returns, under, somewhere, Option.isSome_some, Bool.and_true,
              Bool.and_true]
            rfl
          · rw [somewhere] at nowhere
            cases nowhere
          · obtain rfl : spot = other := Option.some.inj (somewhere.symm.trans same)
            rw [at_]
            exact ⟨loaded, there, loaded.playlist.index_of_first spot index places.spot⟩

end Player

namespace World

section GivesUp

variable {world : World} (numbered : world.Numbered) (move : Move) (activity : Activity)
  (mover : world.mover? move = some activity)
include numbered mover

theorem give_up_moves (ready : Player) (replacement : Replacement)
    (gives : activity.step? world.player = some (ready.giveUp replacement)) (idle : ready.executing.drained none = true) :
    ∃ stage, (world.move move).replies? move = some ((ready.stopped stage).replace replacement).1 ∧
      ∃ last, (world.after [move, move]).player = ((ready.stopped stage).replace replacement).2.delivered last := by
  obtain ⟨⟨stage, given⟩, goes⟩ := mover_steps numbered mover gives
  have next : (world.move move).mover? move = some (.draining replacement) := goes rfl
  have between : (world.move move).player = ready.stopped stage := given.trans (ready.give_up_stopped stage)
  have step : (Activity.draining replacement).step? (world.move move).player =
      some (.finished ((ready.stopped stage).replace replacement).1, ((ready.stopped stage).replace replacement).2) := by
    rw [Activity.step?, between, if_pos (show (ready.stopped stage).executing.drained none = true from idle)]
  refine ⟨stage, ?_, ?_⟩
  · rw [replies?, next, Option.bind_some, step]
    rfl
  · exact (mover_steps (move_comes world numbered move).2 next step).1

end GivesUp

-- A load with nothing in flight is refused exactly if its spot has no place; else saving gives the save back.
theorem load_gives_save_back (world : World) (numbered : world.Numbered)
    (named : ∀ loaded ∈ world.player.library.scripts, loaded.playlist.Named)
    (idle : world.player.executing.drained none = true) (move : Move) (save : Save)
    (mover : world.mover? move = some (.asked (.load save))) :
    ((world.move move).replies? move = some .done ↔
      ∀ spot, save.spot = some spot → ∃ loaded library index, world.player.library.Places spot loaded library index) ∧
    ((world.move move).replies? move = some .done → Player.TakesOver save (world.after [move, move]).player.playback) := by
  obtain ⟨stage, reply, last, player⟩ := give_up_moves numbered move _ mover world.player (.load save false) rfl idle
  have done : (world.move move).replies? move = some .done ↔ ((world.player.stopped stage).restore save).1 = .ok () := by
    rw [reply, Option.some_inj, Player.replace_done]
  refine ⟨done.trans ((Player.restore_iff _ save).trans ?_), fun answered => ?_⟩
  · -- the library is the same while everything in flight is given up
    refine forall_congr' fun spot => imp_congr_right fun _ => ?_
    refine exists_congr fun loaded => exists_congr fun library => exists_congr fun index => ?_
    exact ⟨fun places => ⟨places.script, places.spot, places.outside⟩,
      fun places => ⟨places.script, places.spot, places.outside⟩⟩
  · have restored : (world.player.stopped stage).restore save = (.ok (), ((world.player.stopped stage).restore save).2) :=
      Prod.ext (done.mp answered) rfl
    rw [player, Player.replace_load]
    exact (world.player.stopped stage).restore_takes_over named rfl save ((world.player.stopped stage).restore save).2 restored

-- In the wood again, after the line that makes it rain; the call that led there has not returned.
def inRain : Save where
  playing := true
  executed := true
  waiting := true
  returns := [⟨"road", 0, 0⟩]
  spot := some ⟨"wood", 1, 0⟩

def beforeRain : List Move := List.flatten [intoWood, List.replicate 6 (.thread 0), [.ask (.load inRain)]]

theorem rain_given_back :
    (detour.after beforeRain).player.playback.save ≠ inRain ∧
      ((detour.after beforeRain).move .front).replies? .front = some .done ∧
      (detour.after (beforeRain ++ [.front, .front])).player.playback.save = inRain := by
  have done : ((detour.after beforeRain).move .front).replies? .front = some .done := by decide +kernel
  have issued := issued_after Registry.playlist_named detour (numbered_new _ rfl) (stocked_issued _) beforeRain
    (shelved_brings _ _ _ (by decide +kernel))
  obtain ⟨_, takes⟩ := load_gives_save_back (detour.after beforeRain) (after_numbered detour (numbered_new _ rfl) beforeRain)
    (fun loaded member => (issued.player.library loaded member).2) (by decide +kernel) .front inRain rfl
  refine ⟨by decide +kernel, done, ?_⟩
  rw [after_append]
  exact (takes done).saved

-- A save that says that something has run, but not where.
theorem unplaced_run_not_given_back :
    let save : Save := { executed := true }
    let world := (stocked []).after [.ask (.load save)]
    (world.move .front).replies? .front = some .done ∧
      (world.after [.front, .front]).player.playback.save = { save with executed := false } := by
  decide +kernel

end World

end Storyline
