import Storyline.Proofs.EchoFlight

set_option autoImplicit false

/-!
Two players that differ only in how often everything was given up answer requests and go on in the same way.
-/

namespace Storyline

open Execution (Progress)

namespace Player

section Moves

variable {player other : Player} (later : Later player other)
include later

/-! ### Pilots -/

theorem settle_later (generation epoch : Nat) (held : Bool) :
    Echoes Visit.later (player.settle generation epoch held) (other.settle generation (epoch + 1) held) := by
  obtain ⟨stage, passed, ignores, rfl⟩ := later
  have same : ((player.later stage passed).playback.generation = generation ∧
      (player.later stage passed).playback.epoch = epoch + 1) =
      (player.playback.generation = generation ∧ player.playback.epoch = epoch) := by
    simp [Player.later, Playback.later]
  unfold settle
  simp only [same]
  split
  · exact ⟨rfl, stage, held, fun _ => .inl rfl, rfl⟩
  · exact ⟨rfl, stage, passed, ignores, rfl⟩

theorem run_command_later (generation : Nat) (loaded : Loaded) (command : Command) :
    Echoes Visit.later (player.runCommand generation loaded command) (other.runCommand generation loaded command) := by
  have index := index_later later
  have epoch : other.playback.epoch = player.playback.epoch + 1 := by obtain ⟨stage, passed, ignores, rfl⟩ := later; rfl
  obtain ⟨held, judged, more, one, two, stage, passed, ignores, rfl⟩ := (guard_later later command).split
  have visited : Later { judged with played := judged.played.add loaded.playlist.script player.playback.index }
      { judged.later stage passed with
        played := (judged.later stage passed).played.add loaded.playlist.script player.playback.index } :=
    ⟨stage, passed, ignores, rfl⟩
  simp only [runCommand, index, epoch, one, two]
  cases held with
  | false => exact settle_later visited _ _ _
  | true =>
      obtain ⟨execution, launched, after, left, right, later⟩ :=
        (launch_later (capture_later visited command.spot) loaded player.playback.index command .main).split
      simp only [left, right, if_true, id_eq]
      split
      · exact ⟨rfl, later⟩
      · exact settle_later (tell_later later (.spawned (.running execution .nobody))) _ _ _

theorem visit_later (generation : Nat) : Echoes Visit.later (player.visit generation) (other.visit generation) := by
  obtain ⟨passed, _, playback⟩ := playback_later later
  simp only [visit, playback, Playback.later]
  split
  · exact ⟨rfl, later⟩
  · split
    · exact ⟨rfl, later⟩
    · split
      · exact ⟨rfl, later⟩
      · split
        · exact ⟨rfl, later⟩
        · exact run_command_later later _ _ _

theorem check_skip_later (script : String) (index : Nat) :
    Later (player.checkSkip script index) (other.checkSkip script index) := by
  have mode := mode_later later
  have played : other.played = player.played := by obtain ⟨stage, passed, ignores, rfl⟩ := later; rfl
  unfold checkSkip
  rw [mode, played]
  split
  · exact disable_skip_later later
  · exact later

omit later in
theorem next_ignores (loaded : Loaded) (here : player.playback.loaded = some loaded)
    (executed : player.playback.executed = true) (passed : Bool) (ignores : player.playback.Ignores passed) :
    player.next loaded player.playback.index passed =
      player.next loaded player.playback.index player.playback.guardPassed := by
  rcases ignores executed with rfl | plain
  · rfl
  · simp [next, Playlist.advance, plain loaded here]

theorem advance_later (generation : Nat) : Echoes id (player.advance generation) (other.advance generation) := by
  obtain ⟨passed, ignores, playback⟩ := playback_later later
  simp only [advance, playback, Playback.later]
  split
  · exact ⟨rfl, later⟩
  · split
    · exact ⟨rfl, later⟩
    · next loaded here =>
        split
        · next executed =>
          obtain ⟨result, between, more, one, two, later⟩ :=
            (next_later later loaded player.playback.index passed).split
          rw [next_ignores loaded here executed passed ignores] at one
          simp only [one, two]
          rcases result with fault | next
          · exact ⟨rfl, later⟩
          · simp only [id_eq]
            split
            · exact ⟨rfl, later⟩
            · exact ⟨rfl, check_skip_later (tell_later (move_caret_later later _ _ _) .stateChanged) _ _⟩
        · exact ⟨rfl, later⟩

/-! ### Travel -/

theorem complete_later (callback : Option String) (sequel : Sequel) :
    Echoes Activity.later (player.complete callback sequel) (other.complete callback sequel) := by
  obtain ⟨role, entered, more, one, two, later⟩ := (enter_rendezvous_later later callback none).split
  simp only [complete, one, two]
  exact ⟨rfl, later⟩

theorem give_up_later (replacement : Replacement) :
    Echoes Activity.later (player.giveUp replacement) (other.giveUp replacement) :=
  ⟨rfl, abandon_later (stop_for_later later .requested)⟩

theorem travel_later (script : String) (target : Nat) :
    Echoes Activity.later (player.travel script target) (other.travel script target) := by
  obtain ⟨passed, _, playback⟩ := playback_later later
  simp only [travel, playback, Playback.later]
  exact complete_later (stop_for_later later .requested) _ _

theorem embark_later (trip : Trip) : Echoes Activity.later (player.embark trip) (other.embark trip) := by
  obtain ⟨stage, passed, ignores, rfl⟩ := later
  exact ⟨rfl, stage, passed, ignores, rfl⟩

theorem disembark_later (trip : Trip) (outcome : Except Error Bool) :
    Echoes Activity.later (player.disembark trip outcome) (other.disembark trip outcome) := by
  have restored : Later (if trip.wasSkipping then player else player.disableSkip)
      (if trip.wasSkipping then other else other.disableSkip) := by
    split
    · exact later
    · exact disable_skip_later later
  unfold disembark
  simp only
  split
  · exact ⟨rfl, restored⟩
  · split
    · obtain ⟨result, between, more, one, two, later⟩ := (start_later restored).split
      rw [one, two]
      rcases result with cause | _
      · exact ⟨rfl, later⟩
      · exact ⟨rfl, later⟩
    · exact ⟨rfl, restored⟩

theorem roll_back_later (snapshot : Snapshot) :
    Echoes Activity.later (player.rollBack snapshot) (other.rollBack snapshot) := by
  obtain ⟨stage, passed, ignores, rfl⟩ := later
  refine give_up_later ?_ _
  exact ⟨stage, passed, ignores, rfl⟩

theorem roll_back_to_later (spot : Spot) : Echoes Activity.later (player.rollBackTo spot) (other.rollBackTo spot) := by
  have history : other.history = player.history := by obtain ⟨stage, passed, ignores, rfl⟩ := later; rfl
  unfold rollBackTo
  rw [history]
  split
  · exact roll_back_later later _
  · split
    · exact roll_back_later (logged_later later _ _) _
    · exact ⟨rfl, logged_later later _ _⟩

theorem rewind_to_index_later (playlist : Playlist) (target : Nat) :
    Echoes Activity.later (player.rewindToIndex playlist target) (other.rewindToIndex playlist target) := by
  have index := index_later later
  unfold rewindToIndex
  rw [index]
  split
  · exact travel_later later _ _
  · split
    · exact ⟨rfl, later⟩
    · exact roll_back_to_later later _

theorem rewind_to_line_later (line : UInt32) :
    Echoes Activity.later (player.rewindToLine line) (other.rewindToLine line) := by
  have loaded := loaded_later later
  unfold rewindToLine
  rw [loaded]
  split
  · exact ⟨rfl, logged_later later _ _⟩
  · split
    · exact ⟨rfl, logged_later later _ _⟩
    · exact rewind_to_index_later later _ _

theorem rewind_to_spot_later (spot : Spot) :
    Echoes Activity.later (player.rewindToSpot spot) (other.rewindToSpot spot) := by
  have loaded := loaded_later later
  unfold rewindToSpot
  rw [loaded]
  split
  · exact roll_back_to_later later _
  · split
    · exact ⟨rfl, logged_later later _ _⟩
    · exact rewind_to_index_later later _ _

/-! ### Requests -/

omit later in
theorem answer_later {one two : Except Error Unit × Player} (echoes : Echoes id one two) :
    Echoes Activity.later (answer one) (answer two) := by
  obtain ⟨result, _, _, rfl, rfl, later⟩ := echoes.split
  rcases result with cause | _
  · exact ⟨rfl, later⟩
  · exact ⟨rfl, later⟩

omit later in
theorem resume_at_later (sequel : Sequel) : (resumeAt sequel).later = resumeAt sequel := by
  cases sequel <;> rfl

theorem handle_later (signal : Signal) (sequel : Sequel) :
    Echoes Activity.later (player.handle signal sequel) (other.handle signal sequel) := by
  have mode := mode_later later
  have executing := executing_later later
  have same := (resume_at_later sequel).symm
  cases signal with
  | «continue» =>
      simp only [handle, mode, executing]
      split
      · exact ⟨same, disable_skip_later later⟩
      · split
        · exact ⟨same, set_waiting_later later _⟩
        · split
          · exact ⟨same, later⟩
          · exact complete_later later _ _
  | skipHold pressed => exact ⟨same, (set_skip_later later pressed).2⟩
  | toggleSkip =>
      simp only [handle, mode]
      exact ⟨same, (set_skip_later later _).2⟩
  | toggleAutoPlay =>
      simp only [handle, mode]
      exact ⟨same, set_auto_play_later later _⟩
  | stop => exact ⟨same, stop_for_later later _⟩

theorem play_transient_later (name : String) (loaded : Loaded) :
    Later (player.playTransient name loaded) (other.playTransient name loaded) := by
  obtain ⟨stage, passed, ignores, rfl⟩ := later
  exact ⟨stage, passed, ignores, rfl⟩

theorem close_inlets_later : Later player.closeInlets other.closeInlets := by
  have told (inlets : List Inlet) {one two : Player} (later : Later one two) :
      Later (inlets.foldl (fun player inlet => player.tell (.sent inlet.id)) one)
        (inlets.foldl (fun player inlet => player.tell (.sent inlet.id)) two) := by
    induction inlets generalizing one two with
    | nil => exact later
    | cons inlet inlets ih => exact ih (tell_later later _)
  obtain ⟨stage, passed, ignores, rfl⟩ := later
  exact told _ ⟨stage, passed, ignores, rfl⟩

theorem bind_later : Later player.bind other.bind := by
  obtain ⟨stage, passed, ignores, same⟩ := close_inlets_later later
  unfold bind
  simp only [same]
  exact ⟨stage, passed, ignores, rfl⟩

theorem send_later (signals : List Signal) : Echoes id (player.send signals) (other.send signals) := by
  obtain ⟨stage, passed, ignores, rfl⟩ := later
  have inlets : (player.later stage passed).inlets = player.inlets := rfl
  unfold send
  rw [inlets]
  split
  · exact ⟨rfl, stage, passed, ignores, rfl⟩
  · simp only
    split
    · exact ⟨rfl, stage, passed, ignores, rfl⟩
    · exact ⟨rfl, stage, passed, ignores, rfl⟩

theorem receive_later (inlet : Nat) : Option.Rel (Echoes id) (player.receive? inlet) (other.receive? inlet) := by
  obtain ⟨stage, passed, ignores, rfl⟩ := later
  have inlets : (player.later stage passed).inlets = player.inlets := rfl
  unfold receive?
  rw [inlets]
  cases player.inlets.find? fun other => other.id = inlet with
  | none => exact .none
  | some found =>
      simp only [Option.bind_some]
      split
      · exact .none
      · exact .some ⟨rfl, stage, passed, ignores, rfl⟩

theorem ask_later (request : Request) : Echoes Activity.later (player.ask request) (other.ask request) := by
  have library := library_later later
  cases request with
  | nothing => exact ⟨rfl, later⟩
  | play script label => exact answer_later (play_later later script label)
  | resume => exact answer_later (start_later later)
  | stop => exact ⟨rfl, stop_for_later later _⟩
  | reset => exact give_up_later later _
  | load save => exact give_up_later later _
  | complete callback => exact complete_later later _ _
  | input signal => exact handle_later later _ _
  | setSkip enabled =>
      obtain ⟨active, changed, more, one, two, later⟩ := (set_skip_later later enabled).split
      simp only [ask, one, two]
      exact ⟨rfl, later⟩
  | setAutoPlay enabled => exact ⟨rfl, set_auto_play_later later _⟩
  | setWaiting waiting => exact ⟨rfl, set_waiting_later later _⟩
  | setVoice playing =>
      obtain ⟨stage, passed, ignores, rfl⟩ := later
      exact ⟨rfl, stage, passed, ignores, rfl⟩
  | jump target => exact answer_later (jump_later later target)
  | call target spot => exact answer_later (call_later later target spot)
  | goBack => exact ⟨rfl, go_back_later later⟩
  | rewindLine line => exact rewind_to_line_later later line
  | rewindSpot spot => exact rewind_to_spot_later later spot
  | transient name playlist =>
      simp only [ask, library]
      exact ⟨rfl, play_transient_later (with_library_later later _) _ _⟩
  | transientNamed name script =>
      simp only [ask, library]
      split
      · exact ⟨rfl, later⟩
      · exact ⟨rfl, play_transient_later (with_library_later later _) _ _⟩
  | insert playlist =>
      simp only [ask, library]
      exact ⟨rfl, with_library_later later _⟩
  | setVariable name value =>
      obtain ⟨stage, passed, ignores, rfl⟩ := later
      exact ⟨rfl, stage, passed, ignores, rfl⟩
  | bind => exact ⟨rfl, bind_later later⟩
  | send signals =>
      obtain ⟨count, sent, more, one, two, later⟩ := (send_later later signals).split
      simp only [ask, one, two]
      exact ⟨rfl, later⟩
  | unbind => exact ⟨rfl, close_inlets_later later⟩
  | sleep millis =>
      obtain ⟨stage, passed, ignores, rfl⟩ := later
      exact ⟨rfl, stage, passed, ignores, rfl⟩
  | untilStopped => exact ⟨rfl, later⟩

/-! ### Steps -/

theorem end_loop_later (generation : Nat) : Later (player.endLoop generation) (other.endLoop generation) := by
  have live := live_later later generation
  unfold endLoop
  rw [live]
  split
  · exact stop_loop_later (logged_later later _ _) _ _
  · exact later

omit later in
theorem after_visit_later (pilot : Pilot) {one two : Visit × Player} (echoes : Echoes Visit.later one two) :
    Echoes Activity.later (afterVisit pilot one) (afterVisit pilot two) := by
  obtain ⟨visit, _, _, rfl, rfl, later⟩ := echoes.split
  cases visit with
  | astray => exact ⟨rfl, later⟩
  | done => exact ⟨rfl, later⟩
  | running execution epoch => exact ⟨rfl, later⟩

theorem steer_loop_later (generation : Nat) :
    Echoes Activity.later (player.steerLoop generation) (other.steerLoop generation) := by
  have mode := mode_later later
  have live := live_later later generation
  simp only [steerLoop, mode, live]
  split
  · split
    · obtain ⟨stage, passed, ignores, rfl⟩ := later
      exact ⟨rfl, stage, passed, ignores, rfl⟩
    · exact after_visit_later _ (visit_later later generation)
  · exact ⟨rfl, later⟩

theorem steer_trip_later (trip : Trip) : Echoes Activity.later (player.steerTrip trip) (other.steerTrip trip) := by
  have script := script_later later
  have index := index_later later
  have mode := mode_later later
  simp only [steerTrip, script, index, mode]
  split
  · exact disembark_later (logged_later later _ _) _ _
  · split
    · exact disembark_later later _ _
    · split
      · exact disembark_later (logged_later later _ _) _ _
      · exact after_visit_later _ (visit_later (with_mode_later later _) _)

theorem fail_later (pilot : Pilot) (cause : Error) :
    Echoes Activity.later (player.fail pilot cause) (other.fail pilot cause) := by
  cases pilot with
  | loop generation => exact ⟨rfl, halt_later later _ _⟩
  | trip trip => exact disembark_later later _ _

theorem advance_pilot_later (pilot : Pilot) :
    Echoes Activity.later (player.advancePilot pilot) (other.advancePilot pilot) := by
  obtain ⟨outcome, between, more, one, two, later⟩ := (advance_later later pilot.generation).split
  simp only [advancePilot, one, two, id_eq]
  cases outcome with
  | moved => exact ⟨rfl, later⟩
  | failed cause => exact fail_later later pilot cause
  | stale =>
      cases pilot with
      | loop generation => exact ⟨rfl, later⟩
      | trip trip => exact disembark_later (logged_later later _ _) _ _
  | atEnd =>
      cases pilot with
      | loop generation => exact ⟨rfl, end_loop_later later generation⟩
      | trip trip => exact disembark_later (logged_later later _ _) _ _

theorem await_input_later (generation : Nat) (auto : Bool) (deadline : Option Nat) :
    Option.Rel (Echoes Activity.later) (player.awaitInput? generation auto deadline)
      (other.awaitInput? generation auto deadline) := by
  have mode := mode_later later
  have live := live_later later generation
  have clock := clock_later later
  have voice : other.voice = player.voice := by obtain ⟨stage, passed, ignores, rfl⟩ := later; rfl
  simp only [awaitInput?, mode, live]
  split
  · exact .some ⟨rfl, later⟩
  · split
    · exact .none
    · rw [clock, voice]
      split
      · split
        · obtain ⟨stage, passed, ignores, rfl⟩ := later
          exact .some ⟨rfl, stage, passed, ignores, rfl⟩
        · exact .some ⟨rfl, set_waiting_later later _⟩
      · exact .none

theorem end_run_later (run : Run) : Echoes Activity.later (player.endRun run) (other.endRun run.later) :=
  ⟨rfl, publish_later later _⟩

theorem halt_run_later (run : Run) (cause : Error) :
    Echoes Activity.later (player.haltRun run cause) (other.haltRun run.later cause) :=
  end_run_later (logged_later later _ _) run

theorem continue_run_later (run : Run) (passed : Bool) :
    Echoes Activity.later (player.continueRun run passed) (other.continueRun run.later passed) := by
  obtain ⟨result, between, more, one, two, later⟩ := (next_later later run.loaded run.index passed).split
  simp only [continueRun, Run.later, one, two, id_eq]
  rcases result with fault | next
  · exact halt_run_later later run _
  · exact ⟨rfl, later⟩

theorem step_run_later (run : Run) : Echoes Activity.later (player.stepRun run) (other.stepRun run.later) := by
  have text : run.later.loaded.playlist.command? run.later.index = run.loaded.playlist.command? run.index := rfl
  have abandoned : other.isAbandoned run.later.full = player.isAbandoned run.full := abandoned_later later run.full
  unfold stepRun
  rw [text]
  split
  · exact end_run_later later run
  · next command _ =>
      rw [abandoned]
      split
      · exact ⟨rfl, later⟩
      · obtain ⟨passed, judged, more, one, two, later⟩ := (guard_later later command).split
        simp only [one, two, id_eq]
        cases passed with
        | false => exact continue_run_later later run false
        | true =>
            obtain ⟨execution, launched, after, left, right, later⟩ :=
              (launch_later later run.loaded run.index command .transient).split
            have right : more.launch run.later.loaded run.later.index command .transient = (execution.later, after) := right
            simp only [left, right]
            split
            · exact ⟨rfl, later⟩
            · exact continue_run_later (tell_later later (.spawned (.running execution .nobody))) run true

theorem resume_caller_later (caller : Caller) (result : Except Error Unit) :
    Echoes Activity.later (player.resumeCaller caller result) (other.resumeCaller caller.later result) := by
  cases caller with
  | nobody => exact ⟨rfl, later⟩
  | pilot pilot epoch =>
      rcases result with cause | _
      · exact fail_later later pilot cause
      · exact after_visit_later pilot (settle_later later pilot.generation epoch true)
  | run run =>
      rcases result with cause | _
      · exact halt_run_later later run cause
      · exact continue_run_later later run true

theorem after_completion_later (sequel : Sequel) :
    Echoes Activity.later (player.afterCompletion sequel) (other.afterCompletion sequel) := by
  have mode := mode_later later
  have released : Later (if player.playback.mode.waiting then player.setWaiting false else player)
      (if player.playback.mode.waiting then other.setWaiting false else other) := by
    split
    · exact set_waiting_later later _
    · exact later
  simp only [afterCompletion, mode]
  split
  · exact embark_later released _
  · exact ⟨(resume_at_later sequel).symm, released⟩

end Moves

end Player

namespace Activity

variable {player other : Player} (later : Later player other)
include later

theorem running_later (execution : Execution) (caller : Caller) :
    Option.Rel (Echoes Activity.later) ((Activity.running execution caller).step? player)
      ((Activity.running execution caller).later.step? other) := by
  refine rel_map (flight_later later execution) ?_
  rintro ⟨progress, moved⟩ ⟨_, more⟩ ⟨rfl, later⟩
  cases progress with
  | going execution => exact ⟨rfl, later⟩
  | ended result =>
      obtain ⟨result, finished, more, one, two, later⟩ := (Player.finish_later later execution result).split
      simp only [Execution.Progress.later, one, two]
      exact Player.resume_caller_later later caller result

theorem step_later (activity : Activity) :
    Option.Rel (Echoes Activity.later) (activity.step? player) (activity.later.step? other) := by
  cases activity with
  | asked request => exact .some (Player.ask_later later request)
  | steering pilot =>
      cases pilot with
      | loop generation => exact .some (Player.steer_loop_later later generation)
      | trip trip => exact .some (Player.steer_trip_later later trip)
  | advancing pilot => exact .some (Player.advance_pilot_later later pilot)
  | awaitingInput generation auto deadline => exact Player.await_input_later later generation auto deadline
  | running execution caller => exact running_later later execution caller
  | deferred run deadline =>
      have clock := Player.clock_later later
      have abandoned : other.isAbandoned run.later.full = player.isAbandoned run.full :=
        Player.abandoned_later later run.full
      simp only [step?, Activity.later, abandoned, clock]
      split
      · exact .some ⟨rfl, later⟩
      · split
        · exact .some ⟨rfl, later⟩
        · exact .none
  | transient run => exact .some (Player.step_run_later later run)
  | listening inlet =>
      have closed : other.isClosed inlet = player.isClosed inlet := by obtain ⟨stage, passed, ignores, rfl⟩ := later; rfl
      have received := Player.receive_later later inlet
      simp only [step?, Activity.later, closed]
      generalize player.receive? inlet = one at received
      generalize other.receive? inlet = two at received
      cases received with
      | none =>
          simp only
          split
          · exact .some ⟨rfl, later⟩
          · exact .none
      | some echoes =>
          obtain ⟨signal, between, more, rfl, rfl, later⟩ := echoes.split
          exact .some (Player.handle_later later signal _)
  | completing role sequel =>
      exact rel_map (Player.leave_rendezvous_later later role none) fun left => Player.after_completion_later left sequel
  | draining replacement =>
      have executing := Player.executing_later later
      obtain ⟨reply, between, more, one, two, later⟩ := (Player.replace_later later replacement).split
      simp only [step?, Activity.later, executing, one, two]
      split
      · exact .some ⟨rfl, later⟩
      · exact .none
  | sleeping deadline =>
      have clock := Player.clock_later later
      simp only [step?, Activity.later, clock]
      split
      · exact .some ⟨rfl, later⟩
      · exact .none
  | untilStopped =>
      have playing : other.playback.playing = player.playback.playing := by
        obtain ⟨stage, passed, ignores, rfl⟩ := later
        rfl
      simp only [step?, Activity.later, playing]
      split
      · exact .none
      · exact .some ⟨rfl, later⟩
  | finished reply => exact .none

end Activity

end Storyline
