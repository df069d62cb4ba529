import Storyline.Proofs.Transitions
import Storyline.Proofs.Visits

set_option autoImplicit false

/-!
What a move leaves alone. The flags of the blocks are turned by the pilot that takes the caret on, the mask by a transition, and
the caret is moved by whoever holds it; so everybody else leaves the chart of a run as it is.
-/

namespace Storyline

/-! ### The moves of the pilot -/

-- What the visit of a command that has not run comes to: the guard leaves it out, or it is in flight, for the pilot that waits
-- for it or for nobody.
inductive VisitOutcome (player : Player) (loaded : Loaded) (command : Command) (visited : Player.Visit × Player) : Prop where
  | omits (done : visited.1 = .done) (ran : visited.2.playback.executed = true)
      (refused : visited.2.playback.guardPassed = false) (flights : visited.2.flights = player.flights)
  | awaits (execution : Execution) (running : visited.1 = .running execution player.playback.epoch)
      (unexecuted : visited.2.playback.executed = player.playback.executed) (own : execution.command = command)
      (new : execution.origin = execution) (under : execution.loaded = loaded ∧ execution.index = player.playback.index)
      (lane : execution.lane = .main) (full : player.abandoned ≤ execution.token.full)
      (flights : visited.2.flights = player.flights)
  | detaches (execution : Execution) (done : visited.1 = .done) (ran : visited.2.playback.executed = true)
      (passed : visited.2.playback.guardPassed = true) (apart : command.wait = false) (own : execution.command = command)
      (new : execution.origin = execution) (flights : visited.2.flights = execution :: player.flights)

namespace Player

theorem settle_current (player : Player) (generation epoch : Nat) (passed : Bool)
    (current : player.playback.generation = generation) (same : player.playback.epoch = epoch) :
    player.settle generation epoch passed =
      (.done, { player with playback := { player.playback with executed := true, guardPassed := passed } }) :=
  if_pos ⟨current, same⟩

theorem run_command_outcome (player : Player) (generation : Nat) (loaded : Loaded) (command : Command)
    (current : player.playback.generation = generation) :
    VisitOutcome player loaded command (player.runCommand generation loaded command) := by
  have judged : Spares { captures := true } player (player.passesGuard command).2 := (guard_edits player command).spares rfl
  have within : Within {} player (player.passesGuard command).2 := (guard_edits player command).within rfl
  unfold runCommand
  simp only
  generalize visits : ({ (player.passesGuard command).2 with
    played := (player.passesGuard command).2.played.add loaded.playlist.script player.playback.index } : Player) = noted
  have spares : Spares { captures := true } player noted := visits ▸ judged.trans (.beside rfl)
  have caret : noted.playback.caret = player.playback.caret := by
    rw [← visits]
    exact within.caret rfl
  have piloted : noted.playback.generation = player.playback.generation := by
    rw [← visits]
    exact (within.pilots rfl).1
  split
  · have captured : Within {} noted (noted.capture command.spot) := (Edit.capture noted command.spot).within.wider rfl
    have kept := spares.trans ((Edit.capture noted command.spot).spares.wider rfl)
    have stays := (captured.caret rfl).trans caret
    split
    · exact .awaits _ rfl (congrArg Caret.executed stays) rfl rfl ⟨rfl, rfl⟩ rfl kept.abandons (kept.executing rfl).2
    · next detached =>
        rw [settle_current]
        · exact .detaches _ rfl rfl rfl (Bool.eq_false_iff.mpr detached) rfl rfl (congrArg (List.cons _) (kept.executing rfl).2)
        · exact (captured.pilots rfl).1.trans (piloted.trans current)
        · exact congrArg Caret.epoch stays
  · rw [settle_current]
    · exact .omits rfl rfl rfl (spares.executing rfl).2
    · exact piloted.trans current
    · exact congrArg Caret.epoch caret

end Player

theorem Player.advance_leads (player : Player) (generation : Nat) (loaded : Loaded)
    (current : player.playback.generation = generation) (there : player.playback.loaded = some loaded)
    (ran : player.playback.executed = true) (moved : (player.advance generation).1 = .moved) :
    ∃ next, (player.next loaded player.playback.index player.playback.guardPassed).1 = .ok next ∧
      next < loaded.playlist.length := by
  simp only [advance, current, ne_eq, not_true_eq_false, if_false, there, ran, if_true] at moved
  split at moved
  · cases moved
  · next next followed found =>
      split at moved
      · cases moved
      · next bound => exact ⟨next, by rw [found], Nat.lt_of_not_le bound⟩

/-! ### What the others leave alone -/

namespace Player

section Elsewhere

variable (player : Player) (run : Run) (flag : Nat × Nat) (apart : flag.1 ≠ run.loaded.handle)
include apart

theorem continue_run_elsewhere (passed : Bool) :
    flag ∈ (player.continueRun run passed).2.raised ↔ flag ∈ player.raised := by
  have followed : flag ∈ (player.next run.loaded run.index passed).2.raised ↔ flag ∈ player.raised := by
    rw [mem_next]
    simp [apart]
  unfold continueRun
  split
  · next found =>
      rw [found] at followed
      exact followed
  · next found =>
      rw [found] at followed
      exact followed

theorem step_run_elsewhere : flag ∈ (player.stepRun run).2.raised ↔ flag ∈ player.raised := by
  unfold stepRun
  split
  · exact Iff.rfl
  · next command _ =>
      split
      · exact Iff.rfl
      · have judged : (player.passesGuard command).2.raised = player.raised :=
          ((guard_edits player command).spares rfl : Spares {} _ _).raised rfl
        split
        · next found =>
            rw [found] at judged
            rw [continue_run_elsewhere _ run flag apart, judged]
        · next found =>
            rw [found] at judged
            simp only
            split
            · exact judged ▸ Iff.rfl
            · exact (continue_run_elsewhere _ run flag apart true).trans (judged ▸ Iff.rfl)

theorem resume_run_elsewhere (result : Except Error Unit) :
    flag ∈ (player.resumeCaller (.run run) result).2.raised ↔ flag ∈ player.raised := by
  cases result with
  | ok _ => exact continue_run_elsewhere player run flag apart true
  | error cause => exact Iff.rfl

end Elsewhere

end Player

theorem Activity.step_presenter (activity : Activity) (player : Player) (moved : Activity × Player)
    (step : activity.step? player = some moved) : moved.2.presenter = player.presenter :=
  (activity.step_edits player moved step).presenter

theorem Execution.sedate_footprint (execution : Execution)
    (sedate : (execution.next?.any fun effect => effect.footprint.caret) = false) : execution.footprint.caret = false := by
  rw [footprint]
  cases next : execution.next? with
  | none => rfl
  | some effect =>
      rw [next] at sedate
      exact sedate

section Frames

variable (activity : Activity) (player : Player) (moved : Activity × Player) (step : activity.step? player = some moved)
  (sedate : activity.lands = false)
include step sedate

-- The flags of a playlist are turned by the pilot that takes the caret on, and by whoever runs the playlist beside it.
theorem step_return_visits (stale : ∀ pilot, activity = .advancing pilot → player.playback.generation ≠ pilot.generation)
    (loaded : Loaded) (apart : ∀ run, activity.run? = some run → run.loaded.handle ≠ loaded.handle) (host : Nat) :
    moved.2.isReturnVisit loaded host = player.isReturnVisit loaded host := by
  apply Player.return_visit_same
  have same (still : activity.reach.raised = false) :
      (loaded.handle, host) ∈ moved.2.raised ↔ (loaded.handle, host) ∈ player.raised := by
    rw [(activity.step_spares player moved step).raised still]
  cases activity with
  | asked request =>
      cases request with
      | play script label => cases sedate
      | _ => exact same rfl
  | advancing pilot =>
      obtain rfl := Option.some.inj step
      rw [player.advance_pilot_flags pilot]
      rcases player.advance_flags pilot.generation with still | ⟨_, current, _⟩
      · rw [still]
      · exact absurd current (stale pilot rfl)
  | running execution caller =>
      cases caller with
      | run run =>
          rcases run_turns step with still | ⟨finished, result, still, rfl⟩
          · exact still ▸ Iff.rfl
          · exact (Player.resume_run_elsewhere _ run _ (apart run rfl).symm _).trans (still ▸ Iff.rfl)
      | _ => exact same rfl
  | transient run =>
      obtain rfl := Option.some.inj step
      exact Player.step_run_elsewhere player run _ (apart run rfl).symm
  | draining replacement => cases sedate
  | _ => exact same rfl

theorem step_masked (calm : activity.turnsMask = false) : moved.2.playback.masked = player.playback.masked := by
  have audible : activity.blanks = false := by
    cases activity with
    | draining replacement => cases sedate
    | _ => rfl
  exact (activity.step_announces player moved step audible).mask calm

-- Only what becomes of the command under the caret may change.
theorem step_rests (stale : ∀ pilot, activity = .advancing pilot → player.playback.generation ≠ pilot.generation) :
    moved.2.playback.loaded = player.playback.loaded ∧ moved.2.playback.index = player.playback.index := by
  cases step_shift step with
  | still caret => exact ⟨congrArg Caret.loaded caret, congrArg Caret.index caret⟩
  | settled passed caret => exact ⟨congrArg Caret.loaded caret, congrArg Caret.index caret⟩
  | advanced pilot loaded next mover current => exact absurd current (stale pilot mover)
  | landed loaded index executed mover => cases sedate.symm.trans mover
  | cleared mover => cases sedate.symm.trans mover

theorem step_charted (stale : ∀ pilot, activity = .advancing pilot → player.playback.generation ≠ pilot.generation)
    (calm : activity.turnsMask = false) (loaded : Loaded)
    (apart : ∀ run, activity.run? = some run → run.loaded.handle ≠ loaded.handle) (first : Nat) (door : Option Nat)
    (turned : Bool) (charted : player.Charted loaded first door turned) : moved.2.Charted loaded first door turned := by
  obtain ⟨there, here⟩ := step_rests activity player moved step sedate stale
  exact charted.kept there here (step_return_visits activity player moved step sedate stale loaded apart)
    (step_masked activity player moved step sedate calm) (activity.step_presenter player moved step)

-- Whoever does not hold the caret leaves it where it is.
theorem stale_still (stale : activity.holds player.playback.generation = false) :
    moved.2.playback.caret = player.playback.caret := by
  have within := activity.step_within player moved step
  have elsewhere (pilot : Pilot) (helm : activity.pilot? = some pilot) : player.playback.generation ≠ pilot.generation :=
    fun same => Bool.eq_false_iff.mp stale ((holds_iff _ _).mpr ⟨pilot, helm, same.symm⟩)
  have idle (pilot : Pilot) (idles : Idles pilot player moved.1 moved.2) :
      moved.2.playback.caret = player.playback.caret := by
    cases idles with
    | still within => exact within.caret rfl
    | ends _ _ _ _ within => exact within.caret rfl
  cases activity with
  | asked request =>
      cases request with
      | play _ _ | jump _ | call _ _ | goBack => cases sedate
      | _ => exact within.caret rfl
  | steering pilot =>
      exact idle pilot (step_stale step pilot rfl (elsewhere pilot rfl) rfl)
  | advancing pilot =>
      exact idle pilot (step_stale step pilot rfl (elsewhere pilot rfl) rfl)
  | running execution caller =>
      have footprint := execution.sedate_footprint sedate
      cases caller with
      | pilot pilot epoch =>
          obtain ⟨⟨progress, between⟩, went, rest⟩ := Option.map_eq_some_iff.mp step
          have stepped := execution.step_within player progress between went
          subst rest
          cases progress with
          | going next => exact stepped.caret footprint
          | ended result =>
              have finished : Within {} between (between.finish execution result).2 :=
                (Player.finish_edits between execution result).within rfl
              have generation := (finished.pilots rfl).1.trans (stepped.pilots (execution_footprint_pilots execution)).1
              have resumed := Player.resume_pilot_idles (between.finish execution result).2 pilot
                (generation ▸ elsewhere pilot rfl) epoch (between.finish execution result).1
              refine Eq.trans ?_ ((finished.caret rfl).trans (stepped.caret footprint))
              cases resumed with
              | still within => exact within.caret rfl
              | ends _ _ _ _ within => exact within.caret rfl
      | nobody => exact within.caret footprint
      | run run => exact within.caret footprint
  | draining replacement => cases sedate
  | _ => exact within.caret rfl

end Frames

end Storyline
