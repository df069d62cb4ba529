import Storyline.Proofs.EffectEdits

set_option autoImplicit false

/-!
The edits that requests and moves are made of.
-/

namespace Storyline

/-! ### Requests and moves -/

def Request.facets : Request → List Facet
  | .play .. => [.library, .stop, .visits, .caret, .returns, .mask, .loop]
  | .resume => [.loop]
  | .stop => [.stop]
  | .reset | .load _ => [.stop, .layer]
  | .complete _ => [.rendezvous]
  | .input _ => [.permission, .mode, .skip, .stop, .rendezvous]
  | .setSkip _ => [.permission, .mode, .skip]
  | .setAutoPlay _ => [.mode]
  | .setWaiting _ => [.permission, .mode]
  | .jump _ => [.library, .caret]
  | .call .. | .goBack => [.library, .caret, .returns]
  | .rewindLine _ | .rewindSpot _ => [.stop, .rendezvous, .history, .store, .layer]
  | .transient .. | .transientNamed .. => [.library, .playlists]
  | .insert _ => [.library]
  | .setVariable .. => [.store]
  | .bind => [.listener]
  | _ => []

namespace Player

section Moves

variable (player : Player)

theorem answer_player (result : Except Error Unit × Player) : (answer result).2 = result.2 := by
  obtain ⟨result | result, after⟩ := result <;> rfl

theorem complete_edits (callback : Option String) (sequel : Sequel) :
    Edits [.rendezvous] player (player.complete callback sequel).2 := enter_rendezvous_edits player callback none

theorem handle_edits (signal : Signal) (sequel : Sequel) :
    Edits [.permission, .mode, .skip, .stop, .rendezvous] player (player.handle signal sequel).2 := by
  cases signal with
  | «continue» =>
      simp only [handle]
      split
      · exact player.disable_skip_edit.edits rfl
      · split
        · exact (player.set_waiting_edits false).wider rfl
        · split
          · exact .refl
          · exact (player.complete_edits none sequel).wider rfl
  | skipHold pressed => exact (player.set_skip_edits _).wider rfl
  | toggleSkip => exact (player.set_skip_edits _).wider rfl
  | toggleAutoPlay => exact (player.set_auto_play_edit _).edits rfl
  | stop => exact player.stop_edit.edits rfl

theorem close_inlets_edits : Edits [] player player.closeInlets := by
  have told (inlets : List Inlet) (player : Player) :
      Edits [] player (inlets.foldl (fun player inlet => player.tell (.sent inlet.id)) player) := by
    induction inlets generalizing player with
    | nil => exact .refl
    | cons inlet inlets ih => exact .trans ((Edit.tell player _ rfl).edits rfl) (ih _)
  have closed : Edits [] player { player with inlets := player.inlets.map fun inlet => { inlet with isOpen := false } } :=
    (Edit.aside player _ _ _ _).edits rfl
  exact closed.trans (told _ _)

theorem bind_edits : Edits [.listener] player player.bind :=
  ((player.close_inlets_edits.wider rfl).and (.aside _ _ _ _ _) rfl).and (.listen _ _) rfl

theorem send_edits (signals : List Signal) : Edits [] player (player.send signals).2 := by
  unfold send
  split
  · exact .refl
  · simp only
    split
    · exact (Edit.aside player _ _ _ _).edits rfl
    · exact .and ((Edit.aside player _ _ _ _).edits rfl) (.tell _ _ rfl) rfl

theorem receive_edits (inlet : Nat) (signal : Signal) (after : Player) (received : player.receive? inlet = some (signal, after)) :
    Edits [] player after := by
  obtain ⟨found, _, received⟩ := Option.bind_eq_some_iff.mp received
  split at received
  · cases received
  · simp only [Option.some.injEq, Prod.mk.injEq] at received
    exact received.2 ▸ (Edit.aside player _ _ _ _).edits rfl

theorem play_transient_edit (name : String) (loaded : Loaded) : Edit .playlists player (player.playTransient name loaded) :=
  .playlist player _ rfl rfl rfl fun _ plays => Option.some.inj plays ▸ Nat.le_refl _

theorem roll_back_edits (snapshot : Snapshot) :
    Edits [.history, .store, .stop, .layer] player (player.rollBack snapshot).2 :=
  .and_then (.and ((Edit.rewind player snapshot).edits rfl) (.store _ snapshot.store) rfl) (give_up_edits _ _) rfl

theorem roll_back_to_edits (spot : Spot) : Edits [.history, .store, .stop, .layer] player (player.rollBackTo spot).2 := by
  have warned (text : String) : Edits [.history, .store, .stop, .layer] player (player.warn text) :=
    (Edit.aside player _ _ _ _).edits rfl
  unfold rollBackTo
  split
  · exact roll_back_edits _ _
  · split
    · exact (warned _).trans (roll_back_edits _ _)
    · exact warned _

theorem rewind_to_index_edits (playlist : Playlist) (target : Nat) :
    Edits [.stop, .rendezvous, .history, .store, .layer] player (player.rewindToIndex playlist target).2 := by
  unfold rewindToIndex
  split
  · exact .and_then (player.stop_edit.edits rfl) (complete_edits _ _ _) rfl
  · split
    · exact .refl
    · exact (roll_back_to_edits _ _).wider rfl

theorem rewind_to_line_edits (line : UInt32) :
    Edits [.stop, .rendezvous, .history, .store, .layer] player (player.rewindToLine line).2 := by
  unfold rewindToLine
  split
  · exact (Edit.aside player _ _ _ _).edits rfl
  · split
    · exact (Edit.aside player _ _ _ _).edits rfl
    · exact rewind_to_index_edits _ _ _

theorem rewind_to_spot_edits (spot : Spot) :
    Edits [.stop, .rendezvous, .history, .store, .layer] player (player.rewindToSpot spot).2 := by
  unfold rewindToSpot
  split
  · exact (roll_back_to_edits _ _).wider rfl
  · split
    · exact (Edit.aside player _ _ _ _).edits rfl
    · exact rewind_to_index_edits _ _ _

theorem ask_edits (request : Request) : Edits request.facets player (player.ask request).2 := by
  cases request with
  | play script label => exact (answer_player _).symm ▸ player.play_edits script label
  | resume => exact (answer_player _).symm ▸ (Edit.start player).edits rfl
  | jump target => exact (answer_player _).symm ▸ player.jump_edits target
  | call target spot => exact (answer_player _).symm ▸ player.call_edits target spot
  | stop => exact player.stop_edit.edits rfl
  | reset => exact player.give_up_edits _
  | load save => exact player.give_up_edits _
  | complete callback => exact player.complete_edits callback _
  | input signal => exact player.handle_edits signal _
  | setSkip enabled => exact player.set_skip_edits enabled
  | setAutoPlay enabled => exact (player.set_auto_play_edit enabled).edits rfl
  | setWaiting waiting => exact player.set_waiting_edits waiting
  | goBack => exact player.go_back_edits
  | rewindLine line => exact player.rewind_to_line_edits line
  | rewindSpot spot => exact player.rewind_to_spot_edits spot
  | transient name playlist => exact .and ((Edit.library player _).edits rfl) (play_transient_edit _ name _) rfl
  | transientNamed name script =>
      simp only [ask]
      split
      · exact .refl
      · exact .and ((Edit.library player _).edits rfl) (play_transient_edit _ name _) rfl
  | insert playlist => exact (Edit.library player _).edits rfl
  | setVariable name value => exact (Edit.store player _).edits rfl
  | setVoice playing => exact (Edit.aside player _ _ _ playing).edits rfl
  | bind => exact player.bind_edits
  | send signals => exact player.send_edits signals
  | unbind => exact player.close_inlets_edits
  | nothing | sleep _ | untilStopped => exact .refl

theorem run_command_edits (generation : Nat) (loaded : Loaded) (command : Command) :
    Edits [.played, .snapshot, .launch, .flights, .mark] player (player.runCommand generation loaded command).2 := by
  have judged : Edits [.played, .snapshot, .launch, .flights, .mark] player (player.passesGuard command).2 :=
    (guard_edits player command).wider rfl
  have visited := judged.and (.played _ ((player.passesGuard command).2.played.add loaded.playlist.script player.playback.index)) rfl
  unfold runCommand
  simp only
  split
  · have launched := (visited.and (.capture _ command.spot) rfl).and (.launch _ loaded player.playback.index command .main) rfl
    split
    · exact launched
    · exact (launched.and (.detach _ _) rfl).and_then (settle_edits _ _ _ _) rfl
  · exact visited.and_then (settle_edits _ _ _ _) rfl

theorem visit_edits (generation : Nat) :
    Edits [.played, .snapshot, .launch, .flights, .mark] player (player.visit generation).2 := by
  unfold visit
  split
  · exact .refl
  · split
    · exact .refl
    · split
      · exact .refl
      · split
        · exact .refl
        · exact run_command_edits _ _ _ _

theorem after_visit_player (pilot : Pilot) (visited : Visit × Player) : (afterVisit pilot visited).2 = visited.2 := by
  obtain ⟨visit, after⟩ := visited
  cases visit <;> rfl

theorem steer_loop_edits (generation : Nat) :
    Edits [.played, .snapshot, .launch, .flights, .mark] player (player.steerLoop generation).2 := by
  unfold steerLoop
  split
  · split
    · exact .refl
    · exact (after_visit_player _ _).symm ▸ visit_edits player generation
  · exact .refl

theorem steer_trip_cases (trip : Trip) :
    (∃ log outcome, player.steerTrip trip = { player with log := log }.disembark trip outcome) ∨
      player.steerTrip trip = afterVisit (.trip { trip with steps := trip.steps + 1 })
        ((player.withMode player.playback.mode.forceSkip).visit trip.generation) := by
  unfold steerTrip
  split
  · exact .inl ⟨_, _, rfl⟩
  · split
    · exact .inl ⟨player.log, _, rfl⟩
    · split
      · exact .inl ⟨_, _, rfl⟩
      · exact .inr rfl

theorem steer_trip_edits (trip : Trip) :
    Edits [.skip, .played, .snapshot, .launch, .flights, .mark, .mode, .loop] player (player.steerTrip trip).2 := by
  rcases player.steer_trip_cases trip with ⟨log, outcome, ends⟩ | visits
  · rw [ends]
    exact .and_then ((Edit.aside player log _ _ _).edits rfl) (disembark_edits _ _ _) rfl
  · rw [visits, after_visit_player]
    exact .and_then (player.force_skip_edit.edits rfl) (visit_edits _ trip.generation) rfl

theorem advance_edits (generation : Nat) : Edits [.visits, .caret, .mode] player (player.advance generation).2 := by
  unfold advance
  split
  · exact .refl
  · split
    · exact .refl
    · next loaded _ =>
        split
        · have followed : Edits [.visits, .caret, .mode] player
              (player.next loaded player.playback.index player.playback.guardPassed).2 := (next_edits _ _ _ _).wider rfl
          split
          · next found => rw [found] at followed; exact followed
          · next found =>
              rw [found] at followed
              split
              · exact followed
              · exact ((followed.and (.caret _ _ _ _) rfl).and (.tell _ _ rfl) rfl).and_then (check_skip_edits _ _ _) rfl
        · exact .refl

theorem fail_edits (pilot : Pilot) (cause : Error) : Edits [.stop, .mode, .loop] player (player.fail pilot cause).2 := by
  cases pilot with
  | loop generation => exact (halt_edits _ _ _).wider rfl
  | trip trip => exact (disembark_edits _ _ _).wider rfl

theorem advanced_edits (pilot : Pilot) :
    Edits [.stop, .mode, .loop] (player.advance pilot.generation).2 (player.advancePilot pilot).2 := by
  have ashore (after : Player) (trip : Trip) (text : String) :
      Edits [.stop, .mode, .loop] after ((after.warn text).disembark trip (.ok false)).2 :=
    .and_then ((Edit.aside after _ _ _ _).edits rfl) (disembark_edits _ _ _) rfl
  unfold advancePilot
  generalize player.advance pilot.generation = advanced
  obtain ⟨_ | _ | _ | cause, after⟩ := advanced
  · exact .refl
  · cases pilot with
    | loop generation => exact (end_loop_edits after generation).wider rfl
    | trip trip => exact ashore after trip _
  · cases pilot with
    | loop generation => exact .refl
    | trip trip => exact ashore after trip _
  · exact fail_edits after pilot cause

theorem advance_pilot_edits (pilot : Pilot) :
    Edits [.visits, .caret, .mode, .stop, .loop] player (player.advancePilot pilot).2 :=
  .and_then ((advance_edits player pilot.generation).wider rfl) (player.advanced_edits pilot) rfl

theorem await_input_edits (generation : Nat) (auto : Bool) (deadline : Option Nat) (moved : Activity × Player)
    (step : player.awaitInput? generation auto deadline = some moved) : Edits [.permission, .mode] player moved.2 := by
  unfold awaitInput? at step
  split at step
  · exact Option.some.inj step ▸ .refl
  · split at step
    · cases step
    · split at step
      · split at step
        · exact Option.some.inj step ▸ .refl
        · exact Option.some.inj step ▸ set_waiting_edits _ _
      · cases step

theorem halt_run_edits (run : Run) (cause : Error) : Edits [] player (player.haltRun run cause).2 :=
  .and ((Edit.aside player _ _ _ _).edits rfl) (.publish _ _ rfl) rfl

theorem continue_run_edits (run : Run) (passed : Bool) : Edits [.visits] player (player.continueRun run passed).2 := by
  have followed := next_edits player run.loaded run.index passed
  unfold continueRun
  split
  · next found => rw [found] at followed; exact followed
  · next found => rw [found] at followed; exact followed.and_then (halt_run_edits _ _ _) rfl

theorem step_run_edits (run : Run) : Edits [.launch, .flights, .visits] player (player.stepRun run).2 := by
  unfold stepRun
  split
  · exact (Edit.publish player _ rfl).edits rfl
  · next command _ =>
      split
      · exact .refl
      · have judged : Edits [.launch, .flights, .visits] player (player.passesGuard command).2 := (guard_edits _ _).wider rfl
        split
        · next found => rw [found] at judged; exact judged.and_then (continue_run_edits _ _ _) rfl
        · next found =>
            rw [found] at judged
            have launched := judged.and (.launch _ run.loaded run.index command .transient) rfl
            simp only
            split
            · exact launched
            · exact (launched.and (.detach _ _) rfl).and_then (continue_run_edits _ _ _) rfl

end Moves

end Player

def Caller.facets : Caller → List Facet
  | .nobody => []
  | .pilot .. => [.mark, .stop, .mode, .loop]
  | .run _ => [.visits]

def Sequel.facets : Sequel → List Facet
  | .travel _ => [.permission, .mode, .helm]
  | _ => [.permission, .mode]

def Replacement.facets : Replacement → List Facet
  | .reset => [.everything]
  | .load save _ => save.facets

def Activity.facets : Activity → List Facet
  | .asked request => request.facets
  | .steering (.loop _) => [.played, .snapshot, .launch, .flights, .mark]
  | .steering (.trip _) => [.skip, .played, .snapshot, .launch, .flights, .mark, .mode, .loop]
  | .advancing _ => [.visits, .caret, .mode, .stop, .loop]
  | .awaitingInput .. => [.permission, .mode]
  | .running execution caller => execution.facets ++ .ending :: caller.facets
  | .transient _ => [.launch, .flights, .visits]
  | .listening _ => [.permission, .mode, .skip, .stop, .rendezvous]
  | .completing _ sequel => .rendezvous :: sequel.facets
  | .draining replacement => replacement.facets
  | _ => []

namespace Player

variable (player : Player)

theorem resume_caller_edits (caller : Caller) (result : Except Error Unit) :
    Edits caller.facets player (player.resumeCaller caller result).2 := by
  cases caller with
  | nobody => exact .refl
  | pilot pilot epoch =>
      cases result with
      | ok _ =>
          simp only [resumeCaller, after_visit_player]
          exact (settle_edits _ _ _ _).wider rfl
      | error cause => exact (fail_edits _ _ _).wider rfl
  | run run =>
      cases result with
      | ok _ => exact continue_run_edits _ _ _
      | error cause => exact (halt_run_edits _ _ _).wider rfl

theorem after_completion_edits (sequel : Sequel) : Edits sequel.facets player (player.afterCompletion sequel).2 := by
  unfold afterCompletion
  cases sequel with
  | travel trip => exact .and (player.released_edits.wider rfl) (.helm _) rfl
  | reply => exact player.released_edits
  | listen inlet => exact player.released_edits

theorem replace_load (save : Save) (rollback : Bool) :
    (player.replace (.load save rollback)).2 = (player.restore save).2 := by
  rw [replace]
  split
  · next done => rw [done]
  · next refused => rw [refused]

theorem replace_edits (replacement : Replacement) : Edits replacement.facets player (player.replace replacement).2 := by
  cases replacement with
  | reset => exact player.clear_edit.edits rfl
  | load save rollback =>
      rw [replace_load]
      exact player.restore_edits save

end Player

theorem Activity.draining_step {replacement : Replacement} {player : Player} {moved : Activity × Player}
    (step : (Activity.draining replacement).step? player = some moved) :
    moved = (.finished (player.replace replacement).1, (player.replace replacement).2) := by
  simp only [step?] at step
  split at step
  · exact (Option.some.inj step).symm
  · cases step

theorem Activity.step_edits (activity : Activity) (player : Player) (moved : Activity × Player)
    (step : activity.step? player = some moved) : Edits activity.facets player moved.2 := by
  cases activity with
  | asked request => exact Option.some.inj step ▸ player.ask_edits request
  | steering pilot =>
      cases pilot with
      | loop generation => exact Option.some.inj step ▸ player.steer_loop_edits generation
      | trip trip => exact Option.some.inj step ▸ player.steer_trip_edits trip
  | advancing pilot => exact Option.some.inj step ▸ player.advance_pilot_edits pilot
  | awaitingInput generation auto deadline => exact player.await_input_edits generation auto deadline _ step
  | running execution caller =>
      obtain ⟨⟨progress, between⟩, went, rest⟩ := Option.map_eq_some_iff.mp step
      have edits : Edits (Activity.running execution caller).facets player between :=
        (execution.step_edits player progress between went).wider (by simp +contextual [facets])
      cases progress with
      | going next => exact rest ▸ edits
      | ended result =>
          have finished := edits.and_then (between.finish_edits execution result) (by simp [facets])
          exact rest ▸ finished.and_then (Player.resume_caller_edits _ caller _) (by simp +contextual [facets])
  | deferred run deadline =>
      simp only [step?] at step
      split at step
      · exact Option.some.inj step ▸ .refl
      · split at step
        · exact Option.some.inj step ▸ .refl
        · cases step
  | transient run => exact Option.some.inj step ▸ player.step_run_edits run
  | listening inlet =>
      simp only [step?] at step
      split at step
      · next signal between received =>
          have taken : Edits (Activity.listening inlet).facets player between :=
            (player.receive_edits inlet signal between received).wider rfl
          exact taken.trans (Option.some.inj step ▸ between.handle_edits signal _)
      · split at step
        · exact Option.some.inj step ▸ .refl
        · cases step
  | completing role sequel =>
      obtain ⟨left, leaves, rest⟩ := Option.map_eq_some_iff.mp step
      have gone : Edits (Activity.completing role sequel).facets player left :=
        (player.leave_rendezvous_edits role none left leaves).wider rfl
      exact gone.and_then (rest ▸ left.after_completion_edits sequel) (by cases sequel <;> rfl)
  | draining replacement =>
      rw [draining_step step]
      exact player.replace_edits replacement
  | sleeping deadline =>
      simp only [step?] at step
      split at step
      · exact Option.some.inj step ▸ .refl
      · cases step
  | untilStopped =>
      simp only [step?] at step
      split at step
      · cases step
      · exact Option.some.inj step ▸ .refl
  | finished reply => cases step

end Storyline
