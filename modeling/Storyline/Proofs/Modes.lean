import Storyline.Proofs.Barriers
import Storyline.Proofs.Rollback

set_option autoImplicit false

/-!
What is announced of the modes. Whoever replays the announcements has the flags, as long as no save is taken over that is
nowhere in a script: that clears the flags and announces only an input wait that the save brings. Skipping is never on
together with auto-play or with the input wait.
-/

namespace Storyline
-- What an observer makes of an announcement.
def Event.heard : Event → Flags → Flags
  | .skipChanged enabled, flags => { flags with skip := enabled }
  | .autoPlayChanged enabled, flags => { flags with autoPlay := enabled }
  | .waitingForInput waiting, flags => { flags with waiting := waiting }
  | .stopped _ .reset, _ => {}
  | _, flags => flags

-- All flags are off at first; the newest announcement is heard last.
def Flags.replay (events : List Event) : Flags := events.foldr Event.heard {}
def Player.flags (player : Player) : Flags := player.playback.mode.flags

/-! ### What is announced -/

-- What is announced on the way tells what becomes of the flags. Of the mask nothing is announced; it is left alone unless the
-- operation is one that may turn it.
structure Announces (masks : Bool) (before after : Player) : Prop where
  news : ∃ news, after.events = news ++ before.events ∧ after.flags = news.foldr Event.heard before.flags
  exclusive : before.flags.Exclusive → after.flags.Exclusive
  mask : masks = false → after.playback.masked = before.playback.masked

namespace Announces

variable {masks : Bool} {before between after : Player}

theorem turning (same : (after.playback.mode, after.events) = (before.playback.mode, before.events)) :
    Announces true before after := by
  obtain ⟨mode, events⟩ := Prod.mk.inj same
  have flags : after.flags = before.flags := congrArg Mode.flags mode
  exact ⟨⟨[], events, flags⟩, fun exclusive => flags ▸ exclusive, fun off => by cases off⟩

theorem beside (same : (after.playback.mode, after.events, after.playback.masked) =
    (before.playback.mode, before.events, before.playback.masked)) : Announces masks before after := by
  obtain ⟨mode, rest⟩ := Prod.mk.inj same
  obtain ⟨events, masked⟩ := Prod.mk.inj rest
  have turned := turning (Prod.ext mode events : (_, _) = (_, _))
  exact ⟨turned.news, turned.exclusive, fun _ => masked⟩

theorem refl (player : Player) : Announces masks player player := beside rfl

theorem trans (first : Announces masks before between) (second : Announces masks between after) :
    Announces masks before after := by
  obtain ⟨older, heard, flags⟩ := first.news
  obtain ⟨newer, later, changed⟩ := second.news
  refine ⟨⟨newer ++ older, by rw [later, heard, List.append_assoc], ?_⟩, fun exclusive =>
    second.exclusive (first.exclusive exclusive), fun still => (second.mask still).trans (first.mask still)⟩
  rw [changed, flags, List.foldr_append]
end Announces

theorem ModeChange.heard_news (change : ModeChange) (flags : Flags) : change.news.foldr Event.heard flags = change.applied flags := by
  obtain ⟨skip, autoPlay, waiting⟩ := change
  cases skip <;> cases autoPlay <;> cases waiting <;> rfl

namespace Player

section Telling

variable {masks : Bool} (player : Player)

theorem publish_announces (event : Event) (silent : ∀ flags, event.heard flags = flags) :
    Announces masks player (player.publish event) :=
  ⟨⟨[event], rfl, (silent _).symm⟩, id, fun _ => rfl⟩

theorem with_mode_announces (changed : ModeChange × Mode) (honest : player.playback.mode.Honest changed) :
    Announces masks player (player.withMode changed) := by
  rw [with_mode_eq]
  refine ⟨⟨changed.1.news, rfl, ?_⟩, honest.exclusive, fun _ => rfl⟩
  rw [ModeChange.heard_news]
  exact honest.told

end Telling

end Player

-- What is changed of a facet is announced. Of the playback as a whole it is not.
def Facet.announced (masks : Bool) : Facet → Bool
  | .playback => false
  | .mask | .everything => masks
  | _ => true

theorem Edit.announces {masks : Bool} {facet : Facet} {before after : Player} (edit : Edit facet before after)
    (told : facet.announced masks = true) : Announces masks before after := by
  cases edit with
  | mode _ changed honest | skip _ changed honest => exact Player.with_mode_announces _ changed honest
  | publish _ event plain =>
      cases event with
      | completed | transientFinished _ => exact Player.publish_announces _ _ fun _ => rfl
      | _ => cases plain
  | launch _ loaded index command lane => exact ⟨⟨[_], rfl, rfl⟩, id, fun _ => rfl⟩
  | ending _ execution => exact ⟨⟨[_], rfl, rfl⟩, id, fun _ => rfl⟩
  | stop _ reason ordinary =>
      unfold Player.stopFor
      split
      · refine ⟨⟨[.stopped before.playback.spot? reason], rfl, ?_⟩, id, fun _ => rfl⟩
        cases reason with
        | reset => exact absurd rfl ordinary
        | _ => rfl
      · exact .refl _
  | start =>
      unfold Player.start
      split
      · exact .refl _
      · split
        · exact .refl _
        · next spot _ => exact ⟨⟨[.started spot], rfl, rfl⟩, id, fun _ => rfl⟩
  | capture _ spot =>
      unfold Player.capture
      split <;> exact .beside rfl
  | permit =>
      unfold Player.permitRollback
      split <;> exact .beside rfl
  | mask _ masked =>
      obtain rfl : masks = true := told
      exact .turning rfl
  | everything =>
      obtain rfl : masks = true := told
      -- The reset that is announced stands for all flags.
      exact ⟨⟨[.stopped none .reset], rfl, rfl⟩, fun _ on => (by cases on), fun off => by cases off⟩
  | playback => cases told
  | _ => exact .beside rfl

theorem Edits.announces {masks : Bool} {facets : List Facet} {before after : Player} (edits : Edits facets before after)
    (told : facets.all (Facet.announced masks) = true) : Announces masks before after :=
  edits.lift (Announces masks) told rfl .refl .trans Edit.announces

/-! ### Moves -/

-- Whether an effect may turn the mask.
def Effect.turnsMask : Effect → Bool
  | .transition _ | .cover => true
  | _ => false

def Request.turnsMask : Request → Bool
  | .play .. => true
  | _ => false

namespace Execution

theorem perform_announces (execution : Execution) (effect : Effect) (player : Player) :
    Announces (decide (execution.lane = .main) && effect.turnsMask) player (execution.perform effect player).2 := by
  have edits := execution.perform_edits effect player
  have masks (value : Bool) : Announces (decide (execution.lane = .main)) player (execution.mask value player) := by
    by_cases main : execution.lane = .main
    · rw [decide_eq_true main]
      exact (execution.mask_edits value player).announces rfl
    -- Beside the caret the mask is left alone.
    · rw [mask, if_neg main]
      exact .refl _
  cases effect with
  | transition millis =>
      rw [show (Effect.transition millis).turnsMask = true from rfl, Bool.and_true]
      simp only [perform]
      split
      · exact masks false
      · split <;> exact .refl _
  | cover =>
      rw [show Effect.cover.turnsMask = true from rfl, Bool.and_true]
      exact masks true
  | _ => exact edits.announces rfl

-- It turns the mask next.
def turnsMask (execution : Execution) : Bool := execution.lane = .main && execution.next?.any Effect.turnsMask

theorem step_announces (execution : Execution) (player : Player) (progress : Progress) (after : Player)
    (step : execution.step? player = some (progress, after)) : Announces execution.turnsMask player after := by
  rcases step_opens execution player progress after step with
    ⟨wait, woken, _, wakes, moved⟩ | ⟨_, _, same, _⟩ | ⟨_, effect, rest, next, moved⟩
  · have same : woken.2 = after := by rw [← unless_failed_player, moved]
    exact same ▸ (execution.wake_edits wait player woken wakes).announces (by cases wait <;> rfl)
  · exact same ▸ .refl _
  · have done := perform_announces { execution with effects := rest } effect player
    rw [moved] at done
    rw [turnsMask, next]
    exact done

end Execution

-- The flags are cleared without a word: a save is taken over that is nowhere in a script.
def Activity.blanks : Activity → Bool
  | .draining (.load save _) => save.spot.isNone
  | _ => false

namespace Activity

-- It may turn the mask by its next move.
def turnsMask : Activity → Bool
  | .asked request => request.turnsMask
  | .running execution _ => execution.turnsMask
  | .draining _ => true
  | _ => false

theorem step_announces (activity : Activity) (player : Player) (moved : Activity × Player)
    (step : activity.step? player = some moved) (audible : activity.blanks = false) :
    Announces activity.turnsMask player moved.2 := by
  have edits := activity.step_edits player moved step
  cases activity with
  | asked request => exact edits.announces (by cases request <;> rfl)
  | steering pilot => cases pilot <;> exact edits.announces rfl
  | running execution caller =>
      obtain ⟨⟨progress, between⟩, went, rest⟩ := Option.map_eq_some_iff.mp step
      have stepped := execution.step_announces player progress between went
      subst rest
      cases progress with
      | going next => exact stepped
      | ended result =>
          exact (stepped.trans ((between.finish_edits execution result).announces rfl)).trans
            ((Player.resume_caller_edits _ caller _).announces (by cases caller <;> rfl))
  | completing role sequel => cases sequel <;> exact edits.announces rfl
  | draining replacement =>
      cases replacement with
      | reset => exact edits.announces rfl
      | load save rollback =>
          obtain ⟨spot, placed⟩ := Option.isSome_iff_exists.mp (Option.isNone_eq_false_iff.mp audible)
          exact edits.announces (by rw [facets, Replacement.facets, Save.facets, placed]; rfl)
  | _ => exact edits.announces rfl

theorem step_blanks (activity : Activity) (player : Player) (moved : Activity × Player)
    (step : activity.step? player = some moved) (silent : activity.blanks = true) :
    Announces true { player with playback := player.playback.clear } moved.2 := by
  cases activity with
  | draining replacement =>
      cases replacement with
      | reset => cases silent
      | load save rollback =>
          have restored : Announces true { player with playback := player.playback.clear } (player.restore save).2 := by
            rw [Player.restore, Option.isNone_iff_eq_none.mp silent]
            exact (Player.adopt_edits _ save).announces rfl
          rw [draining_step step, Player.replace_load]
          exact restored
  | _ => cases silent

end Activity

/-! ### Every run -/

namespace World

-- The move clears the flags without a word.
def blanks (world : World) (move : Move) : Bool :=
  (world.mover? move).any fun activity => activity.blanks && (activity.step? world.player).isSome

-- What the move announces, newest first.
def news (world : World) (move : Move) : List Event :=
  (world.move move).player.events.take ((world.move move).player.events.length - world.player.events.length)

-- What has been announced since the flags were last cleared without a word, newest first.
def recent (world : World) (heard : List Event) : List Move → List Event
  | [] => heard
  | move :: moves => (world.move move).recent (world.news move ++ if world.blanks move then [] else heard) moves

-- No move clears the flags without a word.
def audible (world : World) : List Move → Bool
  | [] => true
  | move :: moves => !world.blanks move && (world.move move).audible moves

variable (world : World)

theorem news_of (move : Move) (news : List Event)
    (events : (world.move move).player.events = news ++ world.player.events) : world.news move = news := by
  rw [World.news, events, List.length_append, Nat.add_sub_cancel]
  exact List.take_left

-- What a move announces tells what becomes of the flags, unless it clears them without a word.
structure Reports (move : Move) : Prop where
  events : (world.move move).player.events = world.news move ++ world.player.events
  flags : (world.move move).player.flags =
    (world.news move).foldr Event.heard (if world.blanks move then {} else world.player.flags)
  exclusive : world.player.flags.Exclusive → (world.move move).player.flags.Exclusive

theorem reports_of {masks : Bool} (move : Move) (before : Player)
    (announces : Announces masks before (world.move move).player)
    (events : before.events = world.player.events)
    (flags : before.flags = if world.blanks move then {} else world.player.flags)
    (exclusive : world.player.flags.Exclusive → before.flags.Exclusive) : world.Reports move := by
  obtain ⟨news, heard, changed⟩ := announces.news
  rw [events] at heard
  have same := news_of world move news heard
  exact ⟨same ▸ heard, by rw [same, ← flags, changed], fun apart => announces.exclusive (exclusive apart)⟩

theorem move_reports (numbered : world.Numbered) (move : Move) : world.Reports move := by
  cases silent : world.blanks move with
  | true =>
      cases mover : world.mover? move with
      | none =>
          rw [blanks, mover] at silent
          cases silent
      | some activity =>
          have cleared := silent
          rw [blanks, mover, Option.any_some, Bool.and_eq_true] at cleared
          obtain ⟨⟨successor, player⟩, step⟩ := Option.isSome_iff_exists.mp cleared.2
          obtain ⟨⟨stage, told⟩, _⟩ := mover_steps numbered mover step
          have announces := (activity.step_blanks world.player _ step cleared.1).trans
            (.beside (by rw [told]) : Announces true player (world.move move).player)
          exact reports_of world move _ announces rfl (by rw [silent]; rfl) fun _ on => by cases on
  | false =>
      have as_before {masks : Bool} (announces : Announces masks world.player (world.move move).player) : world.Reports move :=
        reports_of world move _ announces rfl (by rw [silent]; rfl) id
      cases (move_comes world numbered move).1 with
      | stays clock requests player => exact as_before (.beside (by rw [player]) : Announces false _ _)
      | moves activity successor others player stage mover _ _ step told _ =>
          rw [blanks, mover, Option.any_some, step, Option.isSome_some, Bool.and_true] at silent
          exact as_before ((activity.step_announces world.player _ step silent).trans (.beside (by rw [told])))

theorem flags_recent (numbered : world.Numbered) (heard : List Event) (told : world.player.flags = Flags.replay heard)
    (exclusive : world.player.flags.Exclusive) (moves : List Move) :
    (world.after moves).player.flags = Flags.replay (world.recent heard moves) ∧
      (world.after moves).player.flags.Exclusive := by
  induction moves generalizing world heard with
  | nil => exact ⟨told, exclusive⟩
  | cons move moves ih =>
      have reports := move_reports world numbered move
      refine ih _ (move_comes world numbered move).2 _ ?_ (reports.exclusive exclusive)
      rw [reports.flags, Flags.replay, List.foldr_append]
      cases world.blanks move with
      | true => rfl
      | false => exact congrArg (fun flags => (world.news move).foldr Event.heard flags) told

theorem recent_all (numbered : world.Numbered) (moves : List Move) (audible : world.audible moves = true) :
    world.recent world.player.events moves = (world.after moves).player.events := by
  induction moves generalizing world with
  | nil => rfl
  | cons move moves ih =>
      obtain ⟨loud, rest⟩ := Bool.and_eq_true_iff.mp audible
      have events := (move_reports world numbered move).events
      have spoken : world.blanks move = false := by simpa using loud
      rw [recent, spoken, if_neg Bool.false_ne_true, ← events]
      exact ih _ (move_comes world numbered move).2 rest

theorem mode_events_mirror_flags (start : World) (numbered : start.Numbered) (unheard : start.player.events = [])
    (off : start.player.flags = {}) (moves : List Move) :
    let player := (start.after moves).player
    player.flags = Flags.replay (start.recent [] moves) ∧
      (start.audible moves = true → player.flags = Flags.replay player.events) ∧
      ¬(player.playback.mode.skip = true ∧ player.playback.mode.autoPlay = true) ∧
      ¬(player.playback.mode.skip = true ∧ player.playback.mode.waiting = true) := by
  intro player
  have exclusive : start.player.flags.Exclusive := by
    rw [off]
    intro on
    cases on
  have told := flags_recent start numbered [] off exclusive moves
  refine ⟨told.1, fun audible => ?_, fun both => ?_, fun both => ?_⟩
  · have all := recent_all start numbered moves audible
    rw [unheard] at all
    exact all ▸ told.1
  · cases ((told.2 both.1).1).symm.trans both.2
  · cases ((told.2 both.1).2).symm.trans both.2

def crossroads : World where
  player :=
    { draws := ⟨fun _ => 0, 0⟩
      playback := { mode := { skipMode := .everything } }
      library :=
        { scripts := [⟨0, "road", #[⟨0, ⟨"road", 0, 0⟩, none, true, .waitInput⟩, ⟨0, ⟨"road", 1, 0⟩, none, true, .stop⟩]⟩]
          nextHandle := 1 } }

-- Auto-play goes on, the story asks for input, skipping takes the place of both, and a save at the wait is taken over.
def modesTurn : List Move :=
  List.flatten
    [[.ask (.setAutoPlay true), .front, .ask (.play "road" none), .front, .leave], List.replicate 4 (.thread 0),
      [.ask (.setSkip true), .front, .ask (.load { waiting := true, spot := some ⟨"road", 0, 0⟩ }), .front, .front, .leave]]

theorem turned_modes_heard :
    let player := (crossroads.after modesTurn).player
    crossroads.player.events = [] ∧ crossroads.player.flags = {} ∧ crossroads.audible modesTurn = true ∧
      player.flags = ⟨false, false, true⟩ ∧ player.flags = Flags.replay player.events := by
  have audible : crossroads.audible modesTurn = true := by decide +kernel
  have mirrors := mode_events_mirror_flags crossroads (numbered_new _ rfl) rfl rfl modesTurn
  exact ⟨rfl, rfl, audible, by decide +kernel, mirrors.2.1 audible⟩

-- A save that is nowhere in a script ends auto-play, and nobody is told.
theorem auto_play_ends_unheard :
    let moves : List Move := [.ask (.setAutoPlay true), .front, .ask (.load {}), .front, .front, .leave]
    let player := (crossroads.after moves).player
    crossroads.Orderly moves ∧ crossroads.Awaited moves ∧ player.events = [.autoPlayChanged true] ∧
      (Flags.replay player.events).autoPlay = true ∧ player.flags.autoPlay = false := by
  decide +kernel

end World

end Storyline
