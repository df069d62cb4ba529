import Storyline.Proofs.Landing
import Storyline.Proofs.Pilots
import Storyline.Proofs.Register

set_option autoImplicit false

/-!
Skipping through what was played before. Permission is asked where skipping is turned on and where the caret moves on to the
next command, and not where the caret leaps: into a script that is played, to the target of a jump or into a call. So an
unseen command is skipped only right after such a leap.
-/

namespace Storyline

-- Where skipping is on, the command under the caret has run or may be skipped.
def Player.Seen (player : Player) : Prop :=
  player.playback.mode.skip = true → player.playback.executed = false → ∀ loaded, player.playback.loaded = some loaded →
    player.playback.mode.permits (player.played.contains loaded.playlist.script player.playback.index) = true

def Player.Recorded (player : Player) : Prop := ∃ visits, player.played.Records visits

theorem contains_add (played : Played) (visits : List (String × Nat)) (records : played.Records visits) (script other : String)
    (index at_ : Nat) (contains : played.contains script index = true) : (played.add other at_).contains script index = true := by
  have more := Played.records_add played visits records other at_
  rw [Played.contains_iff_visited _ _ more]
  exact List.mem_append_left _ ((Played.contains_iff_visited _ _ records script index).mp contains)

-- The caret stays, and nothing unseen comes to be skipped.
structure Keeps (before after : Player) : Prop where
  epoch : after.playback.epoch = before.playback.epoch
  seen : before.Seen → after.Seen

def Sees (before after : Player) : Prop := after.Seen ∨ Keeps before after

section Keeps

variable {before between after : Player}

theorem Keeps.refl (player : Player) : Keeps player player := ⟨rfl, id⟩

theorem Keeps.trans (first : Keeps before between) (second : Keeps between after) : Keeps before after :=
  ⟨second.epoch.trans first.epoch, fun seen => second.seen (first.seen seen)⟩

theorem Sees.trans (first : Sees before between) (second : Sees between after) : Sees before after := by
  rcases second with seen | second
  · exact .inl seen
  · exact first.imp second.seen fun keeps => keeps.trans second

theorem seen_of_off (player : Player) (off : player.playback.mode.skip = false) : player.Seen :=
  fun on => nomatch off.symm.trans on

theorem seen_of_executed (player : Player) (executed : player.playback.executed = true) : player.Seen :=
  fun _ unexecuted => nomatch executed.symm.trans unexecuted

theorem Keeps.of_caret (caret : after.playback.caret = before.playback.caret)
    (skip : after.playback.mode.skip = true → before.playback.mode.skip = true)
    (skipMode : after.playback.mode.skipMode = before.playback.mode.skipMode)
    (grows : ∀ script index, before.played.contains script index = true → after.played.contains script index = true) :
    Keeps before after := by
  have loaded : after.playback.loaded = before.playback.loaded := congrArg Caret.loaded caret
  have index : after.playback.index = before.playback.index := congrArg Caret.index caret
  have executed : after.playback.executed = before.playback.executed := congrArg Caret.executed caret
  refine ⟨congrArg Caret.epoch caret, fun seen on unexecuted script there => ?_⟩
  have permitted := seen (skip on) (executed ▸ unexecuted) script (loaded ▸ there)
  unfold Mode.permits at permitted ⊢
  rw [skipMode, index]
  split
  · rfl
  · next readOnly =>
      rw [readOnly] at permitted
      exact grows _ _ permitted

theorem Keeps.of_within {footprint : Footprint} (within : Within footprint before after)
    (still : footprint.le { playing := true, pilots := true, launches := true, returns := true } = true) : Keeps before after := by
  have within := within.wider still
  refine .of_caret (within.caret rfl) (within.skip rfl) within.skipMode fun script index contains => ?_
  rw [within.played rfl]
  exact contains

theorem Keeps.of_quiet (within : Within {} before after) : Keeps before after := .of_within within rfl

end Keeps

namespace Player

section Sees

variable (player : Player)

/-! ### Where permission is asked -/

theorem set_skip_keeps (enabled : Bool) : Keeps player (player.setSkip enabled).2 := by
  have within := (set_skip_edits player enabled).kept
  have caret := within.caret rfl
  refine ⟨congrArg Caret.epoch caret, fun seen => ?_⟩
  cases enabled with
  | false => exact (Keeps.of_quiet ((disable_skip_edit player).within.wider rfl)).seen seen
  | true =>
      by_cases permitted : player.playback.mode.permits player.upcomingVisited = true
      · intro _ unexecuted loaded there
        have loaded_before : player.playback.loaded = some loaded := (congrArg Caret.loaded caret).symm.trans there
        have unexecuted_before : player.playback.executed = false := (congrArg Caret.executed caret).symm.trans unexecuted
        have index : (player.setSkip true).2.playback.index = player.playback.index := congrArg Caret.index caret
        rw [within.played rfl, index]
        unfold Mode.permits at permitted ⊢
        rw [within.skipMode]
        simpa [upcomingVisited, Playback.script?, loaded_before, unexecuted_before] using permitted
      · have refused : (player.setSkip true).2 = player.warn "Skip refused: upcoming command was never played" := by
          simp [setSkip, Mode.enableSkip, permitted]
        rw [refused]
        exact (Keeps.of_quiet (logged_within player _ _)).seen seen

theorem check_skip_seen (script : String) (index : Nat) (loaded : Loaded) (there : player.playback.loaded = some loaded)
    (named : loaded.playlist.script = script) (here : player.playback.index = index) : (player.checkSkip script index).Seen := by
  unfold checkSkip
  split
  · refine seen_of_off _ ?_
    rw [disableSkip, with_mode_playback]
    rfl
  · next allowed =>
      intro on _ other again
      obtain rfl := Option.some.inj (there.symm.trans again)
      rw [named, here]
      simpa [on] using allowed

theorem advance_sees (generation : Nat) : Sees player (player.advance generation).2 := by
  unfold advance
  split
  · exact .inr (.refl _)
  · split
    · exact .inr (.refl _)
    · next loaded _ =>
        split
        · have followed : Within {} player
              (player.next loaded player.playback.index player.playback.guardPassed).2 := (next_edits _ _ _ _).within rfl
          split
          · next found =>
              rw [found] at followed
              exact .inr (.of_quiet followed)
          · next found =>
              rw [found] at followed
              split
              · exact .inr (.of_quiet followed)
              · exact .inl (check_skip_seen _ _ _ loaded rfl rfl rfl)
        · exact .inr (.refl _)

/-! ### Other moves of the caret -/

theorem go_back_sees : Sees player player.goBack := by
  unfold goBack
  split
  · exact .inr (.of_quiet (logged_within _ _ _))
  · have popped : Within { returns := true } player
        { player with playback := { player.playback with returns := player.playback.returns.dropLast } } :=
      ⟨fun _ => rfl, fun _ => rfl, fun _ => ⟨rfl, rfl⟩, fun _ => id, rfl, fun _ => rfl, fun _ => rfl, nofun⟩
    simp only
    split
    · exact .inr (.of_within (popped.trans (logged_within _ _ _)) rfl)
    · next loaded library _ =>
        have found := popped.trans ((Edit.library _ library).within.wider rfl)
        split
        · exact .inr (.of_within (found.trans (logged_within _ _ _)) rfl)
        · exact .inl (seen_of_executed _ rfl)

theorem settle_sees (generation epoch : Nat) (passed : Bool) : Sees player (player.settle generation epoch passed).2 := by
  unfold settle
  split
  · exact .inl (seen_of_executed _ rfl)
  · exact .inr (.refl _)

theorem run_command_sees (recorded : player.Recorded) (generation : Nat) (loaded : Loaded) (command : Command) :
    Sees player (player.runCommand generation loaded command).2 := by
  have judged : Within {} player (player.passesGuard command).2 := (guard_edits player command).within rfl
  have visited : Keeps player { (player.passesGuard command).2 with
      played := (player.passesGuard command).2.played.add loaded.playlist.script player.playback.index } := by
    refine (Keeps.of_quiet judged).trans (.of_caret rfl id rfl fun script index contains => ?_)
    obtain ⟨visits, records⟩ := recorded
    exact contains_add _ visits (judged.played rfl ▸ records) _ _ _ _ contains
  unfold runCommand
  simp only
  split
  · have launched := (visited.trans (.of_quiet ((Edit.capture _ command.spot).within.wider rfl))).trans
      (.of_within ((Edit.launch _ loaded player.playback.index command .main).within) rfl)
    split
    · exact .inr launched
    · exact Sees.trans (.inr (launched.trans (.of_quiet (tell_within _ _ rfl)))) (settle_sees _ _ _ _)
  · exact Sees.trans (.inr visited) (settle_sees _ _ _ _)

theorem visit_sees (recorded : player.Recorded) (generation : Nat) : Sees player (player.visit generation).2 := by
  unfold visit
  split
  · exact .inr (.refl _)
  · split
    · exact .inr (.refl _)
    · split
      · exact .inr (.refl _)
      · next loaded _ =>
          split
          · exact .inr (.refl _)
          · next command _ => exact run_command_sees player recorded generation loaded command

theorem restore_sees (save : Save) : Sees player (player.restore save).2 := by
  have adopted (player : Player) : (player.adopt save).2.Seen := by
    obtain ⟨told, _, off, ⟨_, started⟩ | same⟩ := adopt_cases player save
    · rw [started]
      refine seen_of_off _ (Bool.eq_false_iff.mpr fun on => ?_)
      exact nomatch off.symm.trans ((Edit.start told).within.skip rfl on)
    · exact same ▸ seen_of_off told off
  unfold restore
  split
  · exact .inl (adopted _)
  · next spot _ =>
      have placed : Within {} player _ := (place_edits player spot).within rfl
      split
      · next found =>
          rw [found] at placed
          exact .inr (.of_quiet placed)
      · exact .inl (adopted _)

theorem replace_sees (replacement : Replacement) : Sees player (player.replace replacement).2 := by
  cases replacement with
  | reset =>
      refine .inl (seen_of_off _ (Bool.eq_false_iff.mpr fun on => ?_))
      have within : Within {} { player with playback := player.playback.clear } _ :=
        (clear_all_visits_edits _ player.library.scripts).within rfl
      exact nomatch within.skip rfl on
  | load save rollback =>
      have restored := restore_sees player save
      rw [replace_load]
      exact restored

theorem advance_pilot_sees (pilot : Pilot) : Sees player (player.advancePilot pilot).2 :=
  (advance_sees player pilot.generation).trans (.inr (.of_within (player.advanced_edits pilot).kept rfl))

theorem resume_caller_sees (caller : Caller) (result : Except Error Unit) :
    Sees player (player.resumeCaller caller result).2 := by
  cases caller with
  | nobody => exact .inr (.refl _)
  | run run => exact .inr (.of_quiet ((resume_caller_edits _ (.run _) _).within rfl))
  | pilot pilot epoch =>
      cases result with
      | error cause => exact .inr (.of_within ((fail_edits _ _ _).kept) rfl)
      | ok _ =>
          simp only [resumeCaller, after_visit_player]
          exact settle_sees _ _ _ _

theorem handle_keeps (signal : Signal) (sequel : Sequel) : Keeps player (player.handle signal sequel).2 := by
  cases signal with
  | «continue» =>
      simp only [handle]
      split
      · exact .of_quiet ((disable_skip_edit _).within.wider rfl)
      · split
        · exact .of_quiet ((set_waiting_edits _ _).within rfl)
        · split
          · exact .refl _
          · exact .of_quiet ((complete_edits _ _ _).within rfl)
  | skipHold pressed => exact set_skip_keeps _ _
  | toggleSkip => exact set_skip_keeps _ _
  | toggleAutoPlay => exact .of_quiet ((set_auto_play_edit _ _).within.wider rfl)
  | stop => exact .of_within ((Edit.stop _ _ (by decide)).within) rfl

end Sees

end Player

/-! ### Leaps -/

def Effect.leaps : Effect → Bool
  | .jump _ | .call _ => true
  | _ => false

-- The caret leaps, or a trip goes ahead and forces skipping.
def Activity.leaps : Activity → Bool
  | .asked (.play ..) | .asked (.jump _) | .asked (.call ..) => true
  | .running execution _ => execution.next?.any Effect.leaps
  | .steering (.trip _) => true
  | _ => false

theorem Execution.perform_sees (execution : Execution) (effect : Effect) (stays : effect.leaps = false) (player : Player) :
    Sees player (execution.perform effect player).2 := by
  cases effect with
  | jump target => cases stays
  | call target => cases stays
  | goBack => exact Player.go_back_sees player
  | setSkip enabled report =>
      exact .inr ((Player.set_skip_keeps player enabled).trans (.of_quiet (.beside rfl rfl rfl rfl)))
  | _ => exact .inr (.of_within (perform_within execution _ player) rfl)

theorem Execution.step_sees (execution : Execution) (player : Player) (progress : Progress) (after : Player)
    (step : execution.step? player = some (progress, after)) (caller : Caller)
    (stays : (Activity.running execution caller).leaps = false) : Sees player after := by
  rcases step_cases execution player progress after step with ⟨effect, rest, next, moved⟩ | ⟨_, within⟩
  · have done := perform_sees { execution with effects := rest } effect (by simpa [Activity.leaps, next] using stays) player
    rw [moved] at done
    exact done
  · exact .inr (.of_quiet (within _))

theorem running_sees (execution : Execution) (caller : Caller) (player : Player) (moved : Activity × Player)
    (step : (Activity.running execution caller).step? player = some moved)
    (stays : (Activity.running execution caller).leaps = false) : Sees player moved.2 := by
  obtain ⟨⟨progress, between⟩, went, rest⟩ := Option.map_eq_some_iff.mp step
  have sees := execution.step_sees player progress between went caller stays
  subst rest
  cases progress with
  | going next => exact sees
  | ended result =>
      have finished := sees.trans (.inr (.of_quiet ((Player.finish_edits between execution result).within rfl)))
      exact finished.trans (Player.resume_caller_sees _ caller _)

theorem step_sees (activity : Activity) (player : Player) (recorded : player.Recorded) (moved : Activity × Player)
    (step : activity.step? player = some moved) (stays : activity.leaps = false) : Sees player moved.2 := by
  have within := activity.step_within player moved step
  cases activity with
  | asked request =>
      have answered : player.ask request = moved := Option.some.inj step
      subst answered
      cases request with
      | play script label => cases stays
      | jump target => cases stays
      | call target spot => cases stays
      | goBack => exact Player.go_back_sees player
      | input signal => exact .inr (Player.handle_keeps player signal .reply)
      | setSkip enabled => exact .inr (Player.set_skip_keeps player enabled)
      | _ => exact .inr (.of_within within rfl)
  | steering pilot =>
      cases pilot with
      | trip trip => cases stays
      | loop generation =>
          have steered : player.steerLoop generation = moved := Option.some.inj step
          subst steered
          unfold Player.steerLoop
          split
          · split
            · exact .inr (.refl _)
            · rw [Player.after_visit_player]
              exact Player.visit_sees player recorded generation
          · exact .inr (.refl _)
  | advancing pilot =>
      have advanced : player.advancePilot pilot = moved := Option.some.inj step
      exact advanced ▸ Player.advance_pilot_sees player pilot
  | running execution caller => exact running_sees execution caller player moved step stays
  | listening inlet =>
      simp only [Activity.step?] at step
      split at step
      · next signal between received =>
          obtain rfl := Option.some.inj step
          exact .inr ((Keeps.of_quiet ((Player.receive_edits player inlet signal between received).within rfl)).trans
            (Player.handle_keeps between signal (.listen inlet)))
      · split at step
        · obtain rfl := Option.some.inj step
          exact .inr (.refl _)
        · cases step
  | draining replacement =>
      obtain rfl := Activity.draining_step step
      exact Player.replace_sees player replacement
  | _ => exact .inr (.of_within within rfl)

-- Trips force skipping wherever the caret is.
def Activity.travels : Activity → Bool
  | .steering (.trip _) => true
  | _ => false

theorem leaping_within {activity : Activity} {player : Player} {moved : Activity × Player}
    (step : activity.step? player = some moved) (leaps : activity.leaps = true) (apart : activity.travels = false) :
    Within { caret := true, playing := true, pilots := true, returns := true } player moved.2 := by
  have edits := activity.step_edits player moved step
  cases activity with
  | asked request =>
      cases request with
      | play script label => exact edits.within rfl
      | jump target => exact edits.within rfl
      | call target spot => exact edits.within rfl
      | _ => cases leaps
  | steering pilot =>
      cases pilot with
      | loop generation => cases leaps
      | trip trip => cases apart
  | running execution caller =>
      refine edits.within ?_
      rw [Activity.facets, List.all_append, Bool.and_eq_true]
      refine ⟨execution.facets_all _ (fun wait => by cases wait <;> rfl) fun effect own => ?_, by cases caller <;> rfl⟩
      rw [Activity.leaps, own] at leaps
      cases effect with
      | jump target => rfl
      | call target => rfl
      | _ => cases leaps
  | _ => cases leaps

-- A leap that was refused has not moved the caret.
theorem refused_sees {activity : Activity} {player : Player} {moved : Activity × Player}
    (step : activity.step? player = some moved) (leaps : activity.leaps = true) (apart : activity.travels = false)
    (still : moved.2.playback.epoch = player.playback.epoch) : Sees player moved.2 := by
  have within := leaping_within step leaps apart
  have onward (caret : moved.2.playback.caret.epoch = player.playback.epoch + 1) : False :=
    Nat.succ_ne_self _ (caret.symm.trans still)
  cases step_shift step with
  | still caret =>
      refine .inr (.of_caret caret (within.skip rfl) within.skipMode fun script index contains => ?_)
      rw [within.played rfl]
      exact contains
  | settled passed caret => exact .inl (seen_of_executed _ (congrArg Caret.executed caret))
  | advanced _ _ _ _ _ _ _ _ _ caret => exact (onward (congrArg Caret.epoch caret)).elim
  | landed _ _ _ _ _ _ caret => exact (onward (congrArg Caret.epoch caret)).elim
  | cleared _ caret => exact (onward (congrArg Caret.epoch caret)).elim

/-! ### What is put down as played -/

inductive Enters (before after : Player) : Prop where
  | kept (played : after.played = before.played)
  | forgot (played : after.played = {})
  -- the command under the caret
  | put (loaded : Loaded) (there : before.playback.loaded = some loaded)
      (bound : before.playback.index < loaded.playlist.length)
      (played : after.played = before.played.add loaded.playlist.script before.playback.index)

namespace Player

theorem visit_enters (player : Player) (generation : Nat) : Enters player (player.visit generation).2 := by
  unfold visit
  split
  · exact .kept rfl
  · split
    · exact .kept rfl
    · split
      · exact .kept rfl
      · next loaded there =>
          split
          · exact .kept rfl
          · next command found =>
              exact .put loaded there (Playlist.command_bound _ _ _ found) (run_command_visits player generation loaded command).1

theorem steer_trip_enters (player : Player) (trip : Trip) : Enters player (player.steerTrip trip).2 := by
  rcases player.steer_trip_cases trip with ⟨log, outcome, ends⟩ | visits
  · rw [ends]
    exact .kept ((disembark_edits _ trip _).kept.played rfl)
  · have forced := player.force_skip_within
    have played := forced.played rfl
    have loaded : (player.withMode player.playback.mode.forceSkip).playback.loaded = player.playback.loaded :=
      congrArg Caret.loaded (forced.caret rfl)
    have index : (player.withMode player.playback.mode.forceSkip).playback.index = player.playback.index :=
      congrArg Caret.index (forced.caret rfl)
    rw [visits, after_visit_player]
    cases visit_enters (player.withMode player.playback.mode.forceSkip) trip.generation with
    | kept same => exact .kept (same.trans played)
    | forgot none_ => exact .forgot none_
    | put held there bound put => exact .put held (loaded ▸ there) (index ▸ bound) (by rw [put, played, index])

theorem replace_enters (player : Player) (replacement : Replacement) : Enters player (player.replace replacement).2 := by
  cases replacement with
  | reset => exact .forgot rfl
  | load save rollback =>
      rw [replace_load]
      exact .kept (restore_played player save)

end Player

theorem step_enters (activity : Activity) (player : Player) (moved : Activity × Player)
    (step : activity.step? player = some moved) : Enters player moved.2 := by
  have within := activity.step_within player moved step
  cases activity with
  | asked request => cases request <;> exact .kept (within.played rfl)
  | steering pilot =>
      cases pilot with
      | loop generation =>
          have steered : player.steerLoop generation = moved := Option.some.inj step
          subst steered
          unfold Player.steerLoop
          split
          · split
            · exact .kept rfl
            · rw [Player.after_visit_player]
              exact Player.visit_enters player generation
          · exact .kept rfl
      | trip trip =>
          have steered : player.steerTrip trip = moved := Option.some.inj step
          exact steered ▸ Player.steer_trip_enters player trip
  | running execution caller =>
      cases caller with
      | pilot pilot epoch => exact .kept (within.played rfl)
      | _ => exact .kept ((within.wider execution.footprint_le).played rfl)
  | draining replacement =>
      obtain rfl := Activity.draining_step step
      exact Player.replace_enters player replacement
  | _ => exact .kept (within.played rfl)

theorem step_recorded (activity : Activity) (player : Player) (recorded : player.Recorded) (moved : Activity × Player)
    (step : activity.step? player = some moved) : moved.2.Recorded := by
  obtain ⟨visits, records⟩ := recorded
  rw [Player.Recorded]
  cases step_enters activity player moved step with
  | kept played => exact played ▸ ⟨visits, records⟩
  | forgot played => exact played ▸ ⟨[], Played.records_nothing⟩
  | put loaded there bound played => exact played ▸ ⟨_, Played.records_add _ visits records _ _⟩

/-! ### Commands of the main lane -/

namespace Player

theorem visit_launches (player : Player) (generation : Nat) :
    (player.visit generation).2.launches = player.launches ∨
      ∃ loaded command, player.playback.loaded = some loaded ∧ player.playback.executed = false ∧
        loaded.playlist.command? player.playback.index = some command ∧
        (player.visit generation).2.launches = (command.spot, .main) :: player.launches := by
  unfold visit
  split
  · exact .inl rfl
  · split
    · exact .inl rfl
    · next unexecuted =>
        split
        · exact .inl rfl
        · next loaded there =>
            split
            · exact .inl rfl
            · next command found =>
                have launched := (run_command_visits player generation loaded command).2
                split at launched
                · exact .inr ⟨loaded, command, there, Bool.eq_false_iff.mpr unexecuted, found, launched⟩
                · exact .inl launched

theorem step_run_launches (player : Player) (run : Run) :
    (player.stepRun run).2.launches = player.launches ∨
      ∃ spot, (player.stepRun run).2.launches = (spot, .transient) :: player.launches := by
  have continued (player : Player) (passed : Bool) : (player.continueRun run passed).2.launches = player.launches := by
    have within : Within {} player (player.continueRun run passed).2 := (continue_run_edits _ _ _).within rfl
    exact within.launches rfl
  unfold stepRun
  split
  · exact .inl rfl
  · next command _ =>
      split
      · exact .inl rfl
      · have judged : Within {} player (player.passesGuard command).2 := (guard_edits _ _).within rfl
        split
        · next found =>
            rw [found] at judged
            exact .inl ((continued _ _).trans (judged.launches rfl))
        · next found =>
            rw [found] at judged
            refine .inr ⟨command.spot, ?_⟩
            simp only
            split
            · exact congrArg _ (judged.launches rfl)
            · exact (continued _ _).trans (congrArg _ (judged.launches rfl))

end Player

theorem main_launch (activity : Activity) (player : Player) (moved : Activity × Player)
    (step : activity.step? player = some moved) (outside : ∀ trip, activity.pilot? ≠ some (.trip trip)) (spot : Spot)
    (launched : moved.2.launches = (spot, .main) :: player.launches) :
    ∃ loaded command, player.playback.loaded = some loaded ∧ player.playback.executed = false ∧
      loaded.playlist.command? player.playback.index = some command ∧ command.spot = spot := by
  have within := activity.step_within player moved step
  have busy : moved.2.launches ≠ player.launches := fun same => List.cons_ne_self _ _ (launched.symm.trans same)
  cases activity with
  | asked request => cases request <;> exact absurd (within.launches rfl) busy
  | steering pilot =>
      cases pilot with
      | trip trip => exact absurd rfl (outside trip)
      | loop generation =>
          have steered : player.steerLoop generation = moved := Option.some.inj step
          subst steered
          unfold Player.steerLoop at launched busy
          split at launched
          · split at launched
            · exact absurd launched.symm (List.cons_ne_self _ _)
            · rw [Player.after_visit_player] at launched
              rcases Player.visit_launches player generation with none_ | ⟨loaded, command, there, unexecuted, found, new⟩
              · exact absurd (launched.symm.trans none_) (List.cons_ne_self _ _)
              · have same := (List.cons.inj (new.symm.trans launched)).1
                exact ⟨loaded, command, there, unexecuted, found, congrArg Prod.fst same⟩
          · exact absurd launched.symm (List.cons_ne_self _ _)
  | running execution caller =>
      cases caller with
      | pilot pilot epoch => exact absurd (within.launches rfl) busy
      | _ => exact absurd ((within.wider execution.footprint_le).launches rfl) busy
  | transient run =>
      have stepped : player.stepRun run = moved := Option.some.inj step
      subst stepped
      rcases Player.step_run_launches player run with none_ | ⟨other, new⟩
      · exact absurd none_ busy
      · have same := congrArg Prod.snd (List.cons.inj (new.symm.trans launched)).1
        cases same
  | _ => exact absurd (within.launches rfl) busy

namespace World

theorem after_concat (world : World) (moves : List Move) (move : Move) :
    world.after (moves ++ [move]) = (world.after moves).move move := after_append world moves [move]

theorem move_recorded (world : World) (numbered : world.Numbered) (recorded : world.player.Recorded) (move : Move) :
    (world.move move).player.Recorded := by
  cases (move_comes world numbered move).1 with
  | stays clock requests player => exact player ▸ recorded
  | moves activity successor others player stage _ _ _ step told _ =>
      exact told ▸ step_recorded activity world.player recorded _ step

theorem skip_mode_after (world : World) (numbered : world.Numbered) (moves : List Move) :
    (world.after moves).player.playback.mode.skipMode = world.player.playback.mode.skipMode :=
  world.after_relates (fun before after => after.playback.mode.skipMode = before.playback.mode.skipMode)
    (fun first second => second.trans first) (fun _ _ _ _ => rfl) (fun step => (Activity.step_within _ _ _ step).skipMode)
    numbered moves

-- The caret leapt by one of the moves, or a trip forced skipping, and the caret has not been moved since.
def Leapt (start : World) (moves : List Move) : Prop :=
  ∃ earlier leap later activity, moves = earlier ++ leap :: later ∧ (start.after earlier).mover? leap = some activity ∧
    activity.leaps = true ∧
    (activity.travels = true ∨
      ((start.after earlier).move leap).player.playback.epoch ≠ (start.after earlier).player.playback.epoch) ∧
    ((start.after earlier).move leap).player.playback.epoch = (start.after moves).player.playback.epoch

theorem leapt_concat (start : World) (moves : List Move) (move : Move) (leapt : start.Leapt moves)
    (still : ((start.after moves).move move).player.playback.epoch = (start.after moves).player.playback.epoch) :
    start.Leapt (moves ++ [move]) := by
  obtain ⟨earlier, leap, later, activity, rfl, mover, leaps, moved, epoch⟩ := leapt
  refine ⟨earlier, leap, later ++ [move], activity, by simp, mover, leaps, moved, ?_⟩
  rw [epoch, after_concat _ _ move, still]

theorem seen_or_leapt (start : World) (numbered : start.Numbered) (unskipped : start.player.playback.mode.skip = false)
    (recorded : start.player.Recorded) (moves : List Move) :
    (start.after moves).player.Recorded ∧ ((start.after moves).player.Seen ∨ start.Leapt moves) := by
  induction moves using List.reverseRecOn with
  | nil => exact ⟨recorded, .inl (seen_of_off _ unskipped)⟩
  | append_singleton moves move ih =>
      have there := after_numbered start numbered moves
      rw [after_concat]
      refine ⟨move_recorded _ there ih.1 move, ?_⟩
      cases (move_comes _ there move).1 with
      | stays clock requests player =>
          rw [player]
          exact ih.2.imp_right fun leapt => leapt_concat start moves move leapt (by rw [player])
      | moves activity successor others player stage mover _ _ step told _ =>
          have seen_or_kept (sees : Sees (start.after moves).player player) :
              ((start.after moves).move move).player.Seen ∨ start.Leapt (moves ++ [move]) := by
            rw [told]
            rcases sees with seen | keeps
            · exact .inl seen
            · exact ih.2.imp keeps.seen fun leapt => leapt_concat start moves move leapt (by rw [told]; exact keeps.epoch)
          have leapt (leaps : activity.leaps = true) (far : activity.travels = true ∨
              ((start.after moves).move move).player.playback.epoch ≠ (start.after moves).player.playback.epoch) :
              start.Leapt (moves ++ [move]) :=
            ⟨moves, move, [], activity, rfl, mover, leaps, far, by rw [after_concat]⟩
          cases leaps : activity.leaps with
          | false => exact seen_or_kept (step_sees activity _ ih.1 _ step leaps)
          | true =>
              cases travels : activity.travels with
              | true => exact .inr (leapt leaps (.inl travels))
              | false =>
                  by_cases still : player.playback.epoch = (start.after moves).player.playback.epoch
                  · exact seen_or_kept (refused_sees step leaps travels still)
                  · exact .inr (leapt leaps (.inr (by rw [told]; exact still)))

-- Under the rule that only what was played before is skipped: a command of the main lane that starts while skipping is on
-- was played before, or the caret has leapt to it. Trips force skipping and are left out.
theorem skipped_were_played_or_leapt_to (start : World) (numbered : start.Numbered)
    (unskipped : start.player.playback.mode.skip = false) (readOnly : start.player.playback.mode.skipMode = .readOnly)
    (unplayed : start.player.played = {}) (moves : List Move) (move : Move)
    (outside : ∀ trip, (start.after moves).helm? move ≠ some (.trip trip)) (spot : Spot)
    (started : ((start.after moves).move move).player.launches = (spot, .main) :: (start.after moves).player.launches)
    (skipping : (start.after moves).player.playback.mode.skip = true) :
    let player := (start.after moves).player
    ∃ loaded command, player.playback.loaded = some loaded ∧
      loaded.playlist.command? player.playback.index = some command ∧ command.spot = spot ∧
      (player.played.contains loaded.playlist.script player.playback.index = true ∨ start.Leapt moves) := by
  intro player
  have there := after_numbered start numbered moves
  have recorded : start.player.Recorded := ⟨[], unplayed ▸ Played.records_nothing⟩
  have mode : player.playback.mode.skipMode = .readOnly := (skip_mode_after start numbered moves).trans readOnly
  cases (move_comes _ there move).1 with
  | stays clock requests same =>
      rw [same] at started
      exact absurd started.symm (List.cons_ne_self _ _)
  | moves activity successor others after stage mover _ _ step told _ =>
      rw [told] at started
      rw [helm?, mover] at outside
      obtain ⟨loaded, command, on, unexecuted, found, named⟩ := main_launch activity _ _ step outside spot started
      refine ⟨loaded, command, on, found, named, ?_⟩
      refine (seen_or_leapt start numbered unskipped recorded moves).2.imp_left fun seen => ?_
      have permitted := seen skipping unexecuted loaded on
      rw [Mode.permits, mode] at permitted
      exact permitted

-- A branch that was not taken on the first pass leads to a script that was never played.
def branching : World where
  player :=
    { draws := ⟨fun _ => 0, 0⟩
      store := .ofList [("bold", .bool false)]
      library :=
        { scripts :=
            [⟨0, "road", #[⟨0, ⟨"road", 0, 0⟩, none, true, .waitInput⟩,
                ⟨0, ⟨"road", 1, 0⟩, some (.var "bold"), true, .goto ⟨some "wood", none⟩⟩,
                ⟨0, ⟨"road", 2, 0⟩, none, true, .stop⟩]⟩,
              ⟨1, "wood", #[⟨0, ⟨"wood", 0, 0⟩, none, true, .waitInput⟩]⟩]
          nextHandle := 2 } }

def passes : List Move :=
  List.flatten
    [[.ask (.play "road" none), .front, .leave], List.replicate 8 (.thread 0),
      [.ask (.input .continue), .front, .leave], List.replicate 8 (.thread 0),
      [.ask (.setVariable "bold" (.bool true)), .front, .ask (.play "road" none), .front, .leave],
      List.replicate 8 (.thread 1), [.ask (.setSkip true), .front, .leave, .thread 1]]

theorem skipped_branch_was_played :
    (branching.after passes).helm? (.thread 1) = some (.loop 2) ∧ (branching.after passes).player.playback.mode.skip = true ∧
      ((branching.after passes).move (.thread 1)).player.launches =
        (⟨"road", 1, 0⟩, .main) :: (branching.after passes).player.launches ∧
      let player := (branching.after passes).player
      ∃ loaded command, player.playback.loaded = some loaded ∧
        loaded.playlist.command? player.playback.index = some command ∧ command.spot = ⟨"road", 1, 0⟩ ∧
        player.played.contains loaded.playlist.script player.playback.index = true := by
  have helm : (branching.after passes).helm? (.thread 1) = some (.loop 2) := by decide +kernel
  have skipping : (branching.after passes).player.playback.mode.skip = true := by decide +kernel
  have started : ((branching.after passes).move (.thread 1)).player.launches =
      (⟨"road", 1, 0⟩, .main) :: (branching.after passes).player.launches := by decide +kernel
  -- every leap on the way was followed by a step along the script
  have onward : ∀ count < passes.length, ∀ leap ∈ passes[count]?,
      ∀ activity ∈ (branching.after (passes.take count)).mover? leap, activity.leaps = true →
        ((branching.after (passes.take count)).move leap).player.playback.epoch ≠
          (branching.after passes).player.playback.epoch := by decide +kernel
  obtain ⟨loaded, command, on, found, named, played | ⟨earlier, leap, later, activity, split, mover, leaps, _, epoch⟩⟩ :=
    skipped_were_played_or_leapt_to branching (numbered_new _ rfl) rfl rfl rfl passes (.thread 1)
      (fun _ travels => nomatch helm.symm.trans travels) ⟨"road", 1, 0⟩ started skipping
  · exact ⟨helm, skipping, started, loaded, command, on, found, named, played⟩
  · have shorter : earlier.length < passes.length := by rw [split]; simp
    have upto : passes.take earlier.length = earlier := by rw [split, List.take_left]
    have there : passes[earlier.length]? = some leap := by rw [split]; simp
    have moved := onward earlier.length shorter leap there
    rw [upto] at moved
    exact absurd epoch (moved activity mover leaps)

-- The jump is skipped, and so is the command that it leads to.
theorem unseen_command_skipped :
    let moves := passes ++ List.replicate 4 (.thread 1)
    let world := branching.after moves
    let next := world.move (.thread 1)
    branching.Orderly moves ∧ world.player.playback.mode.skipMode = .readOnly ∧
      world.helm? (.thread 1) = some (.loop 2) ∧ world.player.playback.mode.skip = true ∧
      next.player.launches = (⟨"wood", 0, 0⟩, .main) :: world.player.launches ∧
      (world.player.playback.script?, world.player.playback.index) = (some "wood", 0) ∧
      world.player.played.contains "wood" 0 = false := by
  decide +kernel

end World

end Storyline
