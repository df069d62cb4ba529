import Storyline.Proofs.Anchor
import Storyline.Proofs.Layout
import Storyline.Proofs.Reach

set_option autoImplicit false

/-!
Where the caret can land. A move leaves the caret where it is, marks the command under it as run, takes it on along the
playlist, lets it land somewhere in a script of the library, or takes it off every script.
-/

namespace Storyline

/-! ### Accepted scripts -/

theorem Registry.playlist_accepted (registry : Registry) (compiled : CompiledScript) (playlist : Playlist)
    (built : registry.playlist compiled = .ok playlist) : playlist.Accepted := by
  obtain ⟨commands, _, built⟩ := bind_ok built
  cases checked : Playlist.build compiled.name commands with
  | error fault => rw [checked] at built; cases built
  | ok accepted =>
      rw [checked] at built
      obtain rfl : accepted = playlist := Except.ok.inj built
      exact ((Playlist.build_ok_iff _ _ _).mp checked).2

namespace Library

-- Scripts that are still in files are checked when they are read.
def Sound (library : Library) : Prop := ∀ loaded ∈ library.scripts, loaded.playlist.Accepted

theorem insert_sound (library : Library) (sound : library.Sound) (playlist : Playlist) (accepted : playlist.Accepted) :
    (library.insert playlist).2.Sound := by
  intro loaded member
  rcases Tables.mem_put put_places member with rfl | old
  · exact accepted
  · exact sound loaded old

theorem require_sound (library : Library) (sound : library.Sound) (name : String) (loaded : Loaded) (after : Library)
    (found : library.require name = .ok (loaded, after)) : loaded.playlist.Accepted ∧ after.Sound :=
  library.require_fits library.registry.playlist_accepted sound name loaded after found

end Library

/-! ### Places that the caret can land on -/

namespace Player

-- A command of a script that the library has or can read.
def Reaches (player : Player) (loaded : Loaded) (index : Nat) : Prop :=
  ∃ name library, player.library.require name = .ok (loaded, library) ∧ index < loaded.playlist.length

def Admits (player : Player) (loaded : Loaded) (index : Nat) : Prop :=
  player.Reaches loaded index ∧ loaded.playlist.ensureNavigable index = .ok ()

def Landed (before after : Player) (loaded : Loaded) (index : Nat) (executed : Bool) : Prop :=
  after.playback.caret = ⟨some loaded, index, executed, true, before.playback.epoch + 1⟩

section Landing

variable (player : Player)

theorem resolve_admits (target : Target) (loaded : Loaded) (index : Nat)
    (found : (player.resolve target).1 = .ok (some (loaded, index))) : player.Admits loaded index := by
  unfold resolve at found
  split at found
  · cases found
  · next script _ =>
      split at found
      · cases found
      · next held library required =>
          simp only at found
          split at found
          · cases found
          · split at found
            · cases found
            · next place _ bound =>
                split at found
                · cases found
                · next navigable =>
                    obtain ⟨rfl, rfl⟩ := Prod.mk.inj (Option.some.inj (Except.ok.inj found))
                    exact ⟨⟨script, library, required, Nat.lt_of_not_le bound⟩, navigable⟩

theorem resolve_caret (target : Target) : (player.resolve target).2.playback.caret = player.playback.caret :=
  ((resolve_edits player target).within rfl : Within {} player _).caret rfl

theorem jump_lands (target : Target) :
    (player.jump target).2.playback.caret = player.playback.caret ∨
      ((player.jump target).1 = .ok () ∧
        ∃ loaded index, player.Admits loaded index ∧ Landed player (player.jump target).2 loaded index false) := by
  have still := resolve_caret player target
  unfold jump
  split
  · next found => rw [found] at still; exact .inl still
  · next found => rw [found] at still; exact .inl still
  · next loaded index between found =>
      rw [found] at still
      refine .inr ⟨rfl, loaded, index, resolve_admits player target loaded index (by rw [found]), ?_⟩
      rw [Landed, ← show between.playback.epoch = player.playback.epoch from congrArg Caret.epoch still]
      rfl

theorem call_lands (target : Target) (spot : Spot) :
    (player.call target spot).2.playback.caret = player.playback.caret ∨
      ((player.call target spot).1 = .ok () ∧
        ∃ loaded index, player.Admits loaded index ∧ Landed player (player.call target spot).2 loaded index false) := by
  obtain ⟨returns, same⟩ := player.call_jumps target spot
  rw [same]
  exact jump_lands player target

theorem go_back_lands : player.goBack.playback.caret = player.playback.caret ∨
    ∃ loaded index, player.Reaches loaded index ∧ Landed player player.goBack loaded index true := by
  unfold goBack
  split
  · exact .inl rfl
  · next spot _ =>
      simp only
      split
      · exact .inl rfl
      · next loaded library required =>
          split
          · exact .inl rfl
          · next index found =>
              exact .inr ⟨loaded, index, ⟨spot.script, library, required, Playlist.index_of_lt _ _ _ found⟩, rfl⟩

theorem entry_admits (script : String) (label : Option String) (loaded : Loaded) (index : Nat)
    (found : (player.entry script label).1 = .ok (loaded, index)) : player.Admits loaded index := by
  unfold entry at found
  split at found
  · cases found
  · next held library required =>
      obtain ⟨place, placed, found⟩ := bind_ok found
      split at found
      · cases found
      · next navigable =>
          obtain ⟨rfl, rfl⟩ := Prod.mk.inj (Except.ok.inj found)
          refine ⟨⟨script, library, required, ?_⟩, navigable⟩
          split at placed
          · cases placed
          · next filled =>
              split at placed
              · obtain rfl := Except.ok.inj placed
                exact Nat.pos_of_ne_zero filled
              · split at placed
                · next named =>
                    obtain rfl := Except.ok.inj placed
                    exact Playlist.index_of_label_lt _ _ _ named
                · cases placed

theorem play_lands (script : String) (label : Option String) :
    (player.play script label).2.playback.caret = player.playback.caret ∨
      ∃ loaded index, player.Admits loaded index ∧ Landed player (player.play script label).2 loaded index false := by
  have still : (player.entry script label).2.playback.caret = player.playback.caret :=
    ((entry_edits player script label).within rfl : Within {} player _).caret rfl
  unfold play
  split
  · next found => rw [found] at still; exact .inl still
  · next loaded index between found =>
      rw [found] at still
      refine .inr ⟨loaded, index, entry_admits player script label loaded index (by rw [found]), ?_⟩
      have stopped : (between.stop.clearVisits loaded).playback.caret = between.playback.caret :=
        (Edit.stop between .requested (by decide)).within.caret rfl
      have epoch : (between.stop.clearVisits loaded).playback.epoch = player.playback.epoch :=
        congrArg Caret.epoch (stopped.trans still)
      rw [Landed, (Edit.start _).within.caret rfl, ← epoch]
      rfl

theorem place_admits (spot : Spot) (loaded : Loaded) (index : Nat)
    (found : (player.place spot).1 = .ok (loaded, index)) : player.Admits loaded index := by
  unfold place at found
  split at found
  · cases found
  · next held library required =>
      simp only at found
      split at found
      · cases found
      · next place named =>
          split at found
          · cases found
          · next navigable =>
              obtain ⟨rfl, rfl⟩ := Prod.mk.inj (Except.ok.inj found)
              exact ⟨⟨spot.script, library, required, Playlist.index_of_lt _ _ _ named⟩, navigable⟩

theorem adopt_caret (save : Save) : (player.adopt save).2.playback.caret = player.playback.caret := by
  obtain ⟨told, edits, _, ⟨_, started⟩ | same⟩ := adopt_cases player save
  · rw [started, (Edit.start told).within.caret rfl]
    exact edits.kept.caret rfl
  · rw [same]
    exact edits.kept.caret rfl

def Cleared (before after : Player) : Prop := after.playback.caret = ⟨none, 0, false, true, before.playback.epoch + 1⟩

theorem restore_lands (save : Save) :
    (player.restore save).2.playback.caret = player.playback.caret ∨ Cleared player (player.restore save).2 ∨
      ∃ loaded index, player.Admits loaded index ∧ Landed player (player.restore save).2 loaded index save.executed := by
  unfold restore
  split
  · exact .inr (.inl (adopt_caret _ save))
  · next spot _ =>
      have still : (player.place spot).2.playback.caret = player.playback.caret :=
        ((place_edits player spot).within rfl : Within {} player _).caret rfl
      split
      · next found => rw [found] at still; exact .inl still
      · next loaded index between found =>
          rw [found] at still
          refine .inr (.inr ⟨loaded, index, place_admits player spot loaded index (by rw [found]), ?_⟩)
          have epoch : between.playback.epoch = player.playback.epoch := congrArg Caret.epoch still
          rw [Landed, adopt_caret, ← epoch]
          rfl

theorem clear_lands : Cleared player player.clear := by
  have cleared : Within {} { player with playback := player.playback.clear }
      (player.library.scripts.foldl clearVisits { player with playback := player.playback.clear }) :=
    (clear_all_visits_edits _ _).within rfl
  exact cleared.caret rfl

theorem replace_lands (replacement : Replacement) :
    (player.replace replacement).2.playback.caret = player.playback.caret ∨ Cleared player (player.replace replacement).2 ∨
      ∃ loaded index executed, player.Admits loaded index ∧
        Landed player (player.replace replacement).2 loaded index executed := by
  cases replacement with
  | reset => exact .inr (.inl (clear_lands player))
  | load save rollback =>
      have restored : (player.restore save).2.playback.caret = player.playback.caret ∨
          Cleared player (player.restore save).2 ∨ ∃ loaded index executed, player.Admits loaded index ∧
            Landed player (player.restore save).2 loaded index executed :=
        (restore_lands player save).imp_right (Or.imp_right fun ⟨loaded, index, placed⟩ => ⟨loaded, index, _, placed⟩)
      rw [replace_load]
      exact restored

end Landing

end Player

/-! ### What a move does to the caret -/

def Effect.goesBack : Effect → Bool
  | .goBack => true
  | _ => false

-- The next thing that is done is to go back from a call.
def Activity.goesBack : Activity → Bool
  | .asked .goBack => true
  | .running execution _ => execution.next?.any Effect.goesBack
  | _ => false

-- The caret may land somewhere by the next move.
def Activity.lands : Activity → Bool
  | .asked (.play ..) | .asked (.jump _) | .asked (.call ..) | .asked .goBack | .draining _ => true
  | .running execution _ => execution.next?.any fun effect => effect.footprint.caret
  | _ => false

inductive Shift (activity : Activity) (before after : Player) : Prop where
  | still (caret : after.playback.caret = before.playback.caret)
  -- the command under the caret has run, or its guard has left it out
  | settled (passed : Bool)
      (caret : after.playback.caret = { before.playback.caret with executed := true, guardPassed := passed })
      (first : passed = true ∨ before.playback.executed = false)
  | advanced (pilot : Pilot) (loaded : Loaded) (next : Nat) (mover : activity = .advancing pilot)
      (current : before.playback.generation = pilot.generation) (there : before.playback.loaded = some loaded)
      (ran : before.playback.executed = true)
      (leads : (before.next loaded before.playback.index before.playback.guardPassed).1 = .ok next)
      (bound : next < loaded.playlist.length) (caret : before.Landed after loaded next false)
  | landed (loaded : Loaded) (index : Nat) (executed : Bool) (mover : activity.lands = true)
      (reaches : before.Reaches loaded index)
      (navigable : activity.goesBack = true ∨ loaded.playlist.ensureNavigable index = .ok ())
      (caret : before.Landed after loaded index executed)
  | cleared (mover : activity.lands = true) (caret : before.Cleared after)

-- Only what becomes of the command under the caret may change.
def Settles (before after : Player) : Prop :=
  after.playback.caret = before.playback.caret ∨
    ∃ passed, after.playback.caret = { before.playback.caret with executed := true, guardPassed := passed } ∧
      (passed = true ∨ before.playback.caret.executed = false)

theorem Settles.after_still {before between after : Player} (still : between.playback.caret = before.playback.caret)
    (settles : Settles between after) : Settles before after := by
  rw [Settles, still] at settles
  exact settles

theorem Settles.shift {activity : Activity} {before after : Player} (settles : Settles before after) :
    Shift activity before after := by
  rcases settles with still | ⟨passed, settled, first⟩
  · exact .still still
  · exact .settled passed settled first

namespace Player

section Shifts

variable (player : Player)

theorem settle_settles (generation epoch : Nat) (passed : Bool) (first : passed = true ∨ player.playback.executed = false) :
    Settles player (player.settle generation epoch passed).2 := by
  unfold settle
  split
  · exact .inr ⟨passed, rfl, first⟩
  · exact .inl rfl

theorem run_command_settles (generation : Nat) (loaded : Loaded) (command : Command)
    (unexecuted : player.playback.executed = false) :
    Settles player (player.runCommand generation loaded command).2 := by
  have judged : Within {} player (player.passesGuard command).2 := (guard_edits player command).within rfl
  have visited : ({ (player.passesGuard command).2 with
      played := (player.passesGuard command).2.played.add loaded.playlist.script player.playback.index } :
        Player).playback.caret = player.playback.caret := judged.caret rfl
  unfold runCommand
  simp only
  split
  · have launched := ((Edit.launch _ loaded player.playback.index command .main).within.caret rfl).trans
      ((((Edit.capture _ command.spot).within.wider rfl : Within {} _ _).caret rfl).trans visited)
    split
    · exact .inl launched
    · exact .after_still launched (settle_settles _ _ _ _ (.inl rfl))
  · exact .after_still visited (settle_settles _ _ _ _ (.inr ((congrArg Caret.executed visited).trans unexecuted)))

theorem visit_settles (generation : Nat) : Settles player (player.visit generation).2 := by
  unfold visit
  split
  · exact .inl rfl
  · split
    · exact .inl rfl
    · next unexecuted =>
        split
        · exact .inl rfl
        · split
          · exact .inl rfl
          · exact run_command_settles _ _ _ _ (Bool.eq_false_iff.mpr unexecuted)

theorem steer_loop_settles (generation : Nat) : Settles player (player.steerLoop generation).2 := by
  unfold steerLoop
  split
  · split
    · exact .inl rfl
    · rw [after_visit_player]
      exact visit_settles _ _
  · exact .inl rfl

theorem steer_trip_settles (trip : Trip) : Settles player (player.steerTrip trip).2 := by
  rcases player.steer_trip_cases trip with ⟨log, outcome, ends⟩ | visits
  · rw [ends]
    exact .inl ((disembark_edits _ _ _).kept.caret rfl)
  · rw [visits, after_visit_player]
    exact .after_still (player.force_skip_within.caret rfl) (visit_settles _ _)

theorem advance_lands (generation : Nat) :
    (player.advance generation).2.playback.caret = player.playback.caret ∨
      ∃ loaded next, player.playback.generation = generation ∧ player.playback.loaded = some loaded ∧
        player.playback.executed = true ∧
        (player.next loaded player.playback.index player.playback.guardPassed).1 = .ok next ∧
        next < loaded.playlist.length ∧ Landed player (player.advance generation).2 loaded next false := by
  unfold advance
  split
  · exact .inl rfl
  · next current =>
      split
      · exact .inl rfl
      · next loaded there =>
          split
          · next ran =>
              have followed : (player.next loaded player.playback.index player.playback.guardPassed).2.playback.caret =
                player.playback.caret := ((next_edits player _ _ _).within rfl : Within {} _ _).caret rfl
              split
              · next found => rw [found] at followed; exact .inl followed
              · next next between found =>
                  rw [found] at followed
                  split
                  · exact .inl followed
                  · next bound =>
                      refine .inr ⟨loaded, next, not_ne_iff.mp current, there, ran, by rw [found], Nat.lt_of_not_le bound, ?_⟩
                      have epoch : between.playback.epoch = player.playback.epoch := congrArg Caret.epoch followed
                      rw [Landed, ((check_skip_edits _ _ _).within rfl : Within {} _ _).caret rfl, ← epoch]
                      rfl
          · exact .inl rfl

theorem advance_pilot_caret (pilot : Pilot) :
    (player.advancePilot pilot).2.playback.caret = (player.advance pilot.generation).2.playback.caret :=
  (player.advanced_edits pilot).kept.caret rfl

theorem resume_caller_settles (caller : Caller) (result : Except Error Unit) :
    Settles player (player.resumeCaller caller result).2 := by
  cases caller with
  | nobody => exact .inl rfl
  | run run => exact .inl (((resume_caller_edits player (.run run) result).within rfl : Within {} _ _).caret rfl)
  | pilot pilot epoch =>
      cases result with
      | error cause => exact .inl ((fail_edits _ _ _).kept.caret rfl)
      | ok _ =>
          simp only [resumeCaller, after_visit_player]
          exact settle_settles _ _ _ _ (.inl rfl)

end Shifts

end Player

namespace Execution

theorem unless_failed_done (execution : Execution) (changed : Except Error Unit × Player) (done : changed.1 = .ok ()) :
    (execution.unlessFailed changed).1 = .going execution := by
  obtain ⟨result, after⟩ := changed
  subst done
  rfl

theorem perform_lands (execution : Execution) (effect : Effect) (player : Player) :
    (execution.perform effect player).2.playback.caret = player.playback.caret ∨
      (effect.footprint.caret = true ∧ (∃ next, (execution.perform effect player).1 = .going next) ∧
        ∃ loaded index executed, player.Reaches loaded index ∧
          (effect.goesBack = true ∨ loaded.playlist.ensureNavigable index = .ok ()) ∧
          player.Landed (execution.perform effect player).2 loaded index executed) := by
  cases effect with
  | jump target =>
      simp only [perform, unless_failed_player]
      rcases player.jump_lands target with still | ⟨done, loaded, index, admits, landed⟩
      · exact .inl still
      · exact .inr ⟨rfl, ⟨execution, unless_failed_done execution _ done⟩, loaded, index, false, admits.1, .inr admits.2, landed⟩
  | call target =>
      simp only [perform, unless_failed_player]
      rcases player.call_lands target execution.command.spot with still | ⟨done, loaded, index, admits, landed⟩
      · exact .inl still
      · exact .inr ⟨rfl, ⟨execution, unless_failed_done execution _ done⟩, loaded, index, false, admits.1, .inr admits.2, landed⟩
  | goBack =>
      rcases player.go_back_lands with still | ⟨loaded, index, reaches, landed⟩
      · exact .inl still
      · exact .inr ⟨rfl, ⟨execution, rfl⟩, loaded, index, true, reaches, .inl rfl, landed⟩
  | _ => exact .inl ((perform_within execution _ player).caret rfl)

end Execution

theorem running_shift (execution : Execution) (caller : Caller) (player : Player) (moved : Activity × Player)
    (step : (Activity.running execution caller).step? player = some moved) :
    Shift (.running execution caller) player moved.2 := by
  obtain ⟨⟨progress, between⟩, went, rest⟩ := Option.map_eq_some_iff.mp step
  subst rest
  have ends (result : Except Error Unit) (still : between.playback.caret = player.playback.caret) :
      Settles player ((between.finish execution result).2.resumeCaller caller (between.finish execution result).1).2 := by
    have finished : (between.finish execution result).2.playback.caret = player.playback.caret :=
      (((Player.finish_edits between execution result).within rfl : Within {} _ _).caret rfl).trans still
    exact .after_still finished (Player.resume_caller_settles _ _ _)
  rcases Execution.step_cases execution player progress between went with ⟨effect, rest, next, moved⟩ | ⟨_, within⟩
  · have performed := Execution.perform_lands { execution with effects := rest } effect player
    rw [moved] at performed
    rcases performed with still | ⟨caret, ⟨_, going⟩, loaded, index, executed, reaches, navigable, landed⟩
    · cases progress with
      | going next => exact .still still
      | ended result => exact (ends result still).shift
    · obtain rfl : progress = _ := going
      refine .landed loaded index executed ?_ reaches (navigable.imp_left fun back => ?_) landed
      · rw [Activity.lands, next]
        exact caret
      · rw [Activity.goesBack, next]
        exact back
  · have still := (within {}).caret rfl
    cases progress with
    | going next => exact .still still
    | ended result => exact (ends result still).shift

variable {activity : Activity} {player : Player} {moved : Activity × Player} (step : activity.step? player = some moved)

include step in
theorem step_shift : Shift activity player moved.2 := by
  have within := activity.step_within player moved step
  cases activity with
  | asked request =>
      obtain rfl := Option.some.inj step
      cases request with
      | play script label =>
          simp only [Player.ask, Player.answer_player]
          rcases player.play_lands script label with still | ⟨loaded, index, admits, landed⟩
          · exact .still still
          · exact .landed loaded index false rfl admits.1 (.inr admits.2) landed
      | jump target =>
          simp only [Player.ask, Player.answer_player]
          rcases player.jump_lands target with still | ⟨_, loaded, index, admits, landed⟩
          · exact .still still
          · exact .landed loaded index false rfl admits.1 (.inr admits.2) landed
      | call target spot =>
          simp only [Player.ask, Player.answer_player]
          rcases player.call_lands target spot with still | ⟨_, loaded, index, admits, landed⟩
          · exact .still still
          · exact .landed loaded index false rfl admits.1 (.inr admits.2) landed
      | goBack =>
          rcases player.go_back_lands with still | ⟨loaded, index, reaches, landed⟩
          · exact .still still
          · exact .landed loaded index true rfl reaches (.inl rfl) landed
      | _ => exact .still (within.caret rfl)
  | steering pilot =>
      cases pilot with
      | loop generation =>
          obtain rfl := Option.some.inj step
          exact (Player.steer_loop_settles player generation).shift
      | trip trip =>
          obtain rfl := Option.some.inj step
          exact (Player.steer_trip_settles player trip).shift
  | advancing pilot =>
      obtain rfl := Option.some.inj step
      have same := Player.advance_pilot_caret player pilot
      rcases Player.advance_lands player pilot.generation with
        still | ⟨loaded, next, current, there, ran, leads, bound, landed⟩
      · exact .still (same.trans still)
      · exact .advanced pilot loaded next rfl current there ran leads bound (same.trans landed)
  | running execution caller => exact running_shift execution caller player moved step
  | draining replacement =>
      obtain rfl := Activity.draining_step step
      rcases Player.replace_lands player replacement with still | cleared | ⟨loaded, index, executed, admits, landed⟩
      · exact .still still
      · exact .cleared rfl cleared
      · exact .landed loaded index executed rfl admits.1 (.inr admits.2) landed
  | _ => exact .still (within.caret rfl)

end Storyline
