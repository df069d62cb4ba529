import Storyline.Proofs.Echo

set_option autoImplicit false

/-!
Commands of two players that differ only in how often everything was given up go on in the same way.
-/

namespace Storyline

def Execution.Progress.later : Execution.Progress → Execution.Progress
  | .going execution => .going execution.later
  | .ended result => .ended result

open Execution (Progress)

theorem unless_failed_later (execution : Execution) {changed more : Except Error Unit × Player}
    (echoes : Echoes id changed more) :
    Echoes Progress.later (execution.unlessFailed changed) (execution.later.unlessFailed more) := by
  obtain ⟨result, _, _, rfl, rfl, later⟩ := echoes.split
  rcases result with cause | _
  · exact ⟨rfl, later⟩
  · exact ⟨rfl, later⟩

section Flight

variable {player other : Player} (later : Later player other) (execution : Execution)
include later

theorem cue_later (cue : Cue) (token : Token) :
    Echoes Progress.later (execution.play cue token player) (execution.later.play cue token.later other) := by
  have opened := Player.notes_later later cue.opening
  unfold Execution.play
  split
  · exact ⟨rfl, opened⟩
  · simp only [Player.after_later opened]
    exact ⟨rfl, opened⟩
  · exact ⟨rfl, Player.notes_later opened _⟩

theorem view_later : execution.later.view other = execution.view player := by
  obtain ⟨stage, passed, ignores, rfl⟩ := later
  rfl

theorem mask_later (value : Bool) : Later (execution.mask value player) (execution.later.mask value other) := by
  obtain ⟨stage, passed, ignores, rfl⟩ := later
  simp only [Execution.mask, show execution.later.lane = execution.lane from rfl]
  split
  · exact ⟨stage, passed, ignores, rfl⟩
  · exact ⟨stage, passed, ignores, rfl⟩

theorem perform_later (effect : Effect) :
    Echoes Progress.later (execution.perform effect player) (execution.later.perform effect other) := by
  have instant := Player.instant_later later execution.lane
  have return_visit : other.isReturnVisit execution.loaded execution.index =
      player.isReturnVisit execution.loaded execution.index := by obtain ⟨stage, passed, ignores, rfl⟩ := later; rfl
  have presenter : other.presenter = player.presenter := by obtain ⟨stage, passed, ignores, rfl⟩ := later; rfl
  cases effect with
  | assign name op value =>
      have store := Player.store_later later
      simp only [Execution.perform, store]
      split
      · obtain ⟨stage, passed, ignores, rfl⟩ := later
        exact ⟨rfl, stage, passed, ignores, rfl⟩
      · exact ⟨rfl, later⟩
  | say line =>
      simp only [Execution.perform, presenter, show execution.later.lane = execution.lane from rfl, instant]
      exact cue_later later execution _ execution.token
  | askInput =>
      simp only [Execution.perform, show execution.later.lane = execution.lane from rfl]
      split
      · exact ⟨rfl, Player.set_waiting_later later true⟩
      · exact ⟨rfl, later⟩
  | rest millis =>
      simp only [Execution.perform, show execution.later.lane = execution.lane from rfl, instant, Player.after_later later]
      split
      · exact ⟨rfl, later⟩
      · exact ⟨rfl, later⟩
  | sleep what millis =>
      simp only [Execution.perform, Player.after_later later]
      exact ⟨rfl, later⟩
  | pause millis =>
      simp only [Execution.perform, Player.after_later later]
      exact ⟨rfl, later⟩
  | jump target => exact unless_failed_later execution (Player.jump_later later target)
  | call target => exact unless_failed_later execution (Player.call_later later target _)
  | goBack => exact ⟨rfl, Player.go_back_later later⟩
  | halt => exact ⟨rfl, Player.stop_for_later later .requested⟩
  | schedule millis =>
      simp only [Execution.perform, show execution.later.loaded = execution.loaded from rfl,
        show execution.later.index = execution.index from rfl]
      split
      · exact ⟨rfl, later⟩
      · exact ⟨rfl, Player.schedule_later later _ _⟩
  | barrier =>
      simp only [Execution.perform, show execution.later.loaded = execution.loaded from rfl,
        show execution.later.index = execution.index from rfl, return_visit]
      split
      · exact ⟨rfl, later⟩
      · exact ⟨rfl, later⟩
  | awaitOthers =>
      simp only [Execution.perform, show execution.later.token = execution.token.later from rfl,
        Player.completing_later later, show execution.later.lane = execution.lane from rfl, instant]
      split
      · exact ⟨rfl, later⟩
      · split
        · exact ⟨rfl, later⟩
        · exact ⟨rfl, later⟩
  | completeOthers =>
      obtain ⟨role, entered, more, one, two, later⟩ := (Player.enter_rendezvous_later later none (some execution.id)).split
      simp only [Execution.perform, show execution.later.id = execution.id from rfl, one, two]
      exact ⟨rfl, later⟩
  | waitOthers => exact ⟨rfl, later⟩
  | transition millis =>
      simp only [Execution.perform, show execution.later.loaded = execution.loaded from rfl,
        show execution.later.index = execution.index from rfl, return_visit]
      split
      · exact ⟨rfl, mask_later later execution false⟩
      · split
        · exact ⟨rfl, later⟩
        · exact ⟨rfl, later⟩
  | capture =>
      have opened := Player.notes_later later player.presenter.capture.opening
      simp only [Execution.perform, presenter]
      split
      · exact ⟨rfl, opened⟩
      · simp only [Player.after_later opened]
        exact ⟨rfl, opened⟩
      · exact ⟨rfl, opened⟩
  | cover => exact ⟨rfl, mask_later later execution true⟩
  | blend millis fresh =>
      have cancelled (token : Token) : other.isCancelled token.later = player.isCancelled token := by
        unfold Player.isCancelled
        rw [Player.completing_later later, show token.later.full = token.full + 1 from rfl, Player.abandoned_later later]
      cases fresh with
      | true =>
          simp only [Execution.perform, presenter, if_true, Player.token_later later, cancelled]
          exact cue_later later execution _ _
      | false =>
          simp only [Execution.perform, presenter, Bool.false_eq_true, if_false,
            show execution.later.token = execution.token.later from rfl, cancelled]
          exact cue_later later execution _ _
  | note line =>
      simp only [Execution.perform, view_later later]
      exact ⟨rfl, Player.note_later later _⟩
  | setSkip enabled report =>
      obtain ⟨active, changed, more, one, two, later⟩ := (Player.set_skip_later later enabled).split
      simp only [Execution.perform, one, two]
      exact ⟨rfl, Player.note_later later _⟩
  | setAuto enabled => exact ⟨rfl, Player.set_auto_play_later later enabled⟩
  | setWaiting waiting => exact ⟨rfl, Player.set_waiting_later later waiting⟩
  | fail cause => exact ⟨rfl, later⟩

theorem wake_later (wait : Wait) :
    Option.Rel (Echoes id) (execution.wake? wait player) (execution.later.wake? wait.later other) := by
  have clock := Player.clock_later later
  have executing := Player.executing_later later
  have same : execution.later.id = execution.id := rfl
  cases wait with
  | sleep token what deadline closing =>
      simp only [Execution.wake?, Wait.later, Player.interrupt_later later, clock]
      split
      · exact .none
      · exact .some ⟨rfl, later⟩
      · exact .some ⟨rfl, Player.notes_later later _⟩
  | pause deadline =>
      simp only [Execution.wake?, Wait.later, clock]
      split
      · exact .some ⟨rfl, later⟩
      · exact .none
  | barrier token =>
      simp only [Execution.wake?, Wait.later, Player.interrupt_later later, executing, same]
      split
      · exact .none
      · exact .some ⟨rfl, later⟩
      · exact .some ⟨rfl, later⟩
      · exact .some ⟨rfl, Player.logged_later later _ _⟩
  | others =>
      simp only [Execution.wake?, Wait.later, executing, same]
      split
      · exact .some ⟨rfl, later⟩
      · exact .none
  | rendezvous role =>
      simp only [Execution.wake?, Wait.later, same]
      exact rel_map (Player.leave_rendezvous_later later role (some execution.id)) fun left => ⟨rfl, left⟩

theorem flight_later : Option.Rel (Echoes Progress.later) (execution.step? player) (execution.later.step? other) := by
  have wait : execution.later.wait = execution.wait.map Wait.later := rfl
  have begun : execution.later.begun = execution.begun := rfl
  have effects : execution.later.effects = execution.effects := rfl
  have token : execution.later.token.full = execution.token.full + 1 := rfl
  unfold Execution.step?
  rw [wait, begun, effects, token, Player.abandoned_later later]
  cases execution.wait with
  | some waited =>
      exact rel_map (wake_later later execution waited) fun woken =>
        unless_failed_later { execution with wait := none } woken
  | none =>
      simp only [Option.map_none]
      split
      · split
        · exact .some ⟨rfl, later⟩
        · next effect rest _ => exact .some (perform_later later { execution with effects := rest, wait := none } effect)
      · split
        · exact .some ⟨rfl, later⟩
        · exact .some ⟨rfl, later⟩

end Flight

def Player.Visit.later : Player.Visit → Player.Visit
  | .running execution epoch => .running execution.later (epoch + 1)
  | visit => visit

end Storyline
