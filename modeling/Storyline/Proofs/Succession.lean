import Storyline.Proofs.Reach

set_option autoImplicit false

/-!
What comes after an activity. A pilot stays at its post, a playlist beside the caret goes on, and a listener listens again.
A request comes to something that rests beside the caret, and only a trip that was called for sets out.
-/

namespace Storyline

-- What a request comes to: it is over, or waits beside the caret.
def Activity.rests : Activity → Bool
  | .listening _ | .completing .. | .draining _ | .sleeping _ | .untilStopped | .finished _ => true
  | _ => false

-- The inlet that an activity comes back to.
def Activity.inlet? : Activity → Option Nat
  | .listening inlet | .completing _ (.listen inlet) => some inlet
  | _ => none

-- The pilot after one more visit.
def Pilot.onward : Pilot → Pilot
  | .loop generation => .loop generation
  | .trip own => .trip { own with steps := own.steps + 1 }

theorem Pilot.onward_generation (pilot : Pilot) : pilot.onward.generation = pilot.generation := by cases pilot <;> rfl

-- A command that was started under the caret for the pilot of the generation, and has not begun.
structure Player.Begins (player : Player) (generation : Nat) (execution : Execution) (epoch : Nat) : Prop where
  current : player.playback.generation = generation
  begun : execution.begun = false
  wait : execution.wait = none
  epoch : epoch = player.playback.epoch
  loaded : player.playback.loaded = some execution.loaded
  index : execution.index = player.playback.index
  command : execution.loaded.playlist.command? execution.index = some execution.command

inductive Activity.Becomes (player : Player) : Activity → Activity → Prop where
  | ends (activity : Activity) (reply : Reply) : Becomes player activity (.finished reply)
  | rests (request : Request) (successor : Activity) (rests : successor.rests = true) :
      Becomes player (.asked request) successor
  | holds (activity successor : Activity) (pilot next : Pilot) (helm : activity.pilot? = some pilot)
      (hold : successor.pilot? = some next) (idle : successor.execution? = none) (same : next = pilot ∨ next = pilot.onward) :
      Becomes player activity successor
  | visits (pilot : Pilot) (execution : Execution) (epoch : Nat) (begins : player.Begins pilot.generation execution epoch) :
      Becomes player (.steering pilot) (.running execution (.pilot pilot.onward epoch))
  | goes (execution next : Execution) (caller : Caller) (after : Player)
      (step : execution.step? player = some (.going next, after)) :
      Becomes player (.running execution caller) (.running next caller)
  | plays (activity : Activity) (own run : Run) (played : activity.plays? = some own)
      (same : run = { own with index := run.index }) : Becomes player activity (.transient run)
  | starts (run : Run) (execution : Execution) : Becomes player (.transient run) (.running execution (.run run))
  | listens (activity successor : Activity) (inlet : Nat) (own : activity.inlet? = some inlet)
      (again : successor.inlet? = some inlet) : Becomes player activity successor
  | embarks (role : Role) (trip : Trip) (generation : Nat) :
      Becomes player (.completing role (.travel trip)) (.steering (.trip { trip with generation := generation }))

namespace Player

open Activity (Becomes)

variable (player : Player)

/-! ### Requests -/

theorem handle_rests (signal : Signal) (sequel : Sequel) : (player.handle signal sequel).1.rests = true := by
  have resumed : (resumeAt sequel).rests = true := by cases sequel <;> rfl
  cases signal with
  | «continue» =>
      simp only [handle]
      split
      · exact resumed
      · split
        · exact resumed
        · split
          · exact resumed
          · rfl
  | _ => exact resumed

theorem ask_rests (request : Request) : (player.ask request).1.rests = true := by
  have answered (result : Except Error Unit × Player) : (answer result).1.rests = true := by
    obtain ⟨_ | _, _⟩ := result <;> rfl
  have back (spot : Spot) : (player.rollBackTo spot).1.rests = true := by
    unfold rollBackTo
    split
    · rfl
    · split <;> rfl
  have index (playlist : Playlist) (target : Nat) : (player.rewindToIndex playlist target).1.rests = true := by
    unfold rewindToIndex
    split
    · rfl
    · split
      · rfl
      · exact back _
  cases request with
  | play script label => exact answered _
  | resume => exact answered _
  | jump target => exact answered _
  | call target spot => exact answered _
  | input signal => exact handle_rests _ _ _
  | rewindLine line =>
      simp only [ask, rewindToLine]
      split
      · rfl
      · split
        · rfl
        · exact index _ _
  | rewindSpot spot =>
      simp only [ask, rewindToSpot]
      split
      · exact back _
      · split
        · rfl
        · exact index _ _
  | transientNamed name script =>
      simp only [ask]
      split <;> rfl
  | _ => rfl

theorem handle_inlet (signal : Signal) (inlet : Nat) : (player.handle signal (.listen inlet)).1.inlet? = some inlet := by
  cases signal with
  | «continue» =>
      simp only [handle]
      split
      · rfl
      · split
        · rfl
        · split <;> rfl
  | _ => rfl

/-! ### Pilots -/

theorem settle_not_running (generation epoch : Nat) (passed : Bool) (execution : Execution) (at_ : Nat) :
    (player.settle generation epoch passed).1 ≠ .running execution at_ := by
  unfold settle
  split <;> nofun

theorem visit_begins (generation : Nat) (execution : Execution) (epoch : Nat)
    (running : (player.visit generation).1 = .running execution epoch) : player.Begins generation execution epoch := by
  unfold visit at running
  split at running
  · cases running
  · next current =>
      split at running
      · cases running
      · split at running
        · cases running
        · next loaded there =>
            split at running
            · cases running
            · next command found =>
                unfold runCommand at running
                simp only at running
                split at running
                · split at running
                  · obtain ⟨rfl, rfl⟩ := Visit.running.inj running
                    exact ⟨Decidable.not_not.mp current, rfl, rfl, rfl, there, rfl, found⟩
                  · exact absurd running (settle_not_running _ _ _ _ _ _)
                · exact absurd running (settle_not_running _ _ _ _ _ _)

theorem disembark_finished (trip : Trip) (outcome : Except Error Bool) :
    ∃ reply, (player.disembark trip outcome).1 = .finished reply := by
  unfold disembark
  simp only
  split
  · exact ⟨_, rfl⟩
  · split
    · split <;> exact ⟨_, rfl⟩
    · exact ⟨_, rfl⟩

variable (before : Player) (activity : Activity)

theorem disembark_becomes (trip : Trip) (outcome : Except Error Bool) :
    Becomes before activity (player.disembark trip outcome).1 := by
  obtain ⟨reply, finished⟩ := disembark_finished player trip outcome
  rw [finished]
  exact .ends activity reply

theorem fail_becomes (pilot : Pilot) (cause : Error) : Becomes before activity (player.fail pilot cause).1 := by
  cases pilot with
  | loop generation => exact .ends _ _
  | trip trip => exact disembark_becomes _ _ _ _ _

theorem after_visit_becomes (pilot : Pilot) (visited : Visit × Player)
    (begins : ∀ execution epoch, visited.1 = .running execution epoch → before.Begins pilot.generation execution epoch) :
    Becomes before (.steering pilot) (afterVisit pilot.onward visited).1 := by
  obtain ⟨visit, after⟩ := visited
  cases visit with
  | astray => exact .holds _ _ pilot _ rfl rfl rfl (.inr rfl)
  | done => exact .holds _ _ pilot _ rfl rfl rfl (.inr rfl)
  | running execution epoch => exact .visits pilot execution epoch (begins execution epoch rfl)

theorem steer_loop_becomes (generation : Nat) :
    Becomes player (.steering (.loop generation)) (player.steerLoop generation).1 := by
  unfold steerLoop
  split
  · split
    · exact .holds _ _ (.loop generation) _ rfl rfl rfl (.inl rfl)
    · exact after_visit_becomes player (.loop generation) _ (visit_begins player generation)
  · exact .ends _ _

theorem steer_trip_becomes (trip : Trip) : Becomes player (.steering (.trip trip)) (player.steerTrip trip).1 := by
  rcases player.steer_trip_cases trip with ⟨log, outcome, ends⟩ | visits
  · exact ends ▸ disembark_becomes _ _ _ _ _
  · rw [visits]
    refine after_visit_becomes player (.trip trip) _ fun execution epoch running => ?_
    obtain ⟨current, begun, wait, now, there, index, command⟩ := visit_begins _ _ execution epoch running
    rw [with_mode_playback] at current now there index
    exact ⟨current, begun, wait, now, there, index, command⟩

theorem advance_pilot_becomes (pilot : Pilot) : Becomes player (.advancing pilot) (player.advancePilot pilot).1 := by
  unfold advancePilot
  split
  · exact .holds _ _ _ _ rfl rfl rfl (.inl rfl)
  · exact fail_becomes _ _ _ _ _
  · exact .ends _ _
  · exact .ends _ _
  · exact disembark_becomes _ _ _ _ _
  · exact disembark_becomes _ _ _ _ _

theorem await_input_becomes (generation : Nat) (auto : Bool) (deadline : Option Nat) (moved : Activity × Player)
    (step : player.awaitInput? generation auto deadline = some moved) :
    Becomes player (.awaitingInput generation auto deadline) moved.1 := by
  unfold awaitInput? at step
  split at step
  · exact Option.some.inj step ▸ .holds _ _ (.loop generation) _ rfl rfl rfl (.inl rfl)
  · split at step
    · cases step
    · split at step
      · split at step
        · exact Option.some.inj step ▸ .holds _ _ (.loop generation) _ rfl rfl rfl (.inl rfl)
        · exact Option.some.inj step ▸ .holds _ _ (.loop generation) _ rfl rfl rfl (.inl rfl)
      · cases step

/-! ### Playlists beside the caret -/

theorem continue_run_becomes (run : Run) (passed : Bool) (plays : activity.plays? = some run) :
    Becomes before activity (player.continueRun run passed).1 := by
  unfold continueRun
  split
  · exact .plays _ run _ plays rfl
  · exact .ends _ _

theorem step_run_becomes (run : Run) : Becomes player (.transient run) (player.stepRun run).1 := by
  unfold stepRun
  split
  · exact .ends _ _
  · split
    · exact .ends _ _
    · split
      · exact continue_run_becomes _ _ _ run _ rfl
      · simp only
        split
        · exact .starts run _
        · exact continue_run_becomes _ _ _ run _ rfl

theorem resume_caller_becomes (execution : Execution) (caller : Caller) (result : Except Error Unit) :
    Becomes before (.running execution caller) (player.resumeCaller caller result).1 := by
  cases caller with
  | nobody => exact .ends _ _
  | pilot pilot epoch =>
      cases result with
      | error cause => exact fail_becomes _ _ _ _ _
      | ok _ =>
          simp only [resumeCaller, settle]
          split <;> exact .holds _ _ pilot _ rfl rfl rfl (.inl rfl)
  | run run =>
      cases result with
      | error cause => exact .ends _ _
      | ok _ => exact continue_run_becomes _ _ _ run _ rfl

end Player

theorem Activity.step_becomes (activity : Activity) (player : Player) (moved : Activity × Player)
    (step : activity.step? player = some moved) : activity.Becomes player moved.1 := by
  cases activity with
  | asked request => exact Option.some.inj step ▸ .rests request _ (player.ask_rests request)
  | steering pilot =>
      cases pilot with
      | loop generation => exact Option.some.inj step ▸ player.steer_loop_becomes generation
      | trip trip => exact Option.some.inj step ▸ player.steer_trip_becomes trip
  | advancing pilot => exact Option.some.inj step ▸ player.advance_pilot_becomes pilot
  | awaitingInput generation auto deadline => exact player.await_input_becomes generation auto deadline moved step
  | running execution caller =>
      obtain ⟨⟨progress, between⟩, went, rest⟩ := Option.map_eq_some_iff.mp step
      cases progress with
      | going next => exact rest ▸ .goes execution next caller between went
      | ended result => exact rest ▸ Player.resume_caller_becomes _ player execution caller _
  | deferred run deadline =>
      simp only [step?] at step
      split at step
      · exact Option.some.inj step ▸ .ends _ _
      · split at step
        · exact Option.some.inj step ▸ .plays _ run _ rfl rfl
        · cases step
  | transient run => exact Option.some.inj step ▸ player.step_run_becomes run
  | listening inlet =>
      simp only [step?] at step
      split at step
      · exact Option.some.inj step ▸ .listens _ _ inlet rfl (Player.handle_inlet _ _ inlet)
      · split at step
        · exact Option.some.inj step ▸ .ends _ _
        · cases step
  | completing role sequel =>
      obtain ⟨left, _, rest⟩ := Option.map_eq_some_iff.mp step
      cases sequel with
      | reply => exact rest ▸ .ends _ _
      | listen inlet => exact rest ▸ .listens _ _ inlet rfl rfl
      | travel trip => exact rest ▸ .embarks role trip _
  | draining replacement =>
      rw [draining_step step]
      exact .ends _ _
  | sleeping deadline =>
      simp only [step?] at step
      split at step
      · exact Option.some.inj step ▸ .ends _ _
      · cases step
  | untilStopped =>
      simp only [step?] at step
      split at step
      · cases step
      · exact Option.some.inj step ▸ .ends _ _
  | finished reply => cases step

/-! ### What cannot come after -/

-- Who starts no command of its own, and is in the middle of none.
def Activity.isIdle : Activity → Bool
  | .steering _ | .transient _ | .running _ _ => false
  | _ => true

theorem Activity.Becomes.idle {player : Player} {activity successor : Activity} (becomes : activity.Becomes player successor)
    (idle : activity.isIdle = true) : successor.execution? = none := by
  cases becomes with
  | rests _ _ rests =>
      cases successor with
      | running _ _ => cases rests
      | _ => rfl
  | holds _ _ _ _ _ _ nobody => exact nobody
  | listens _ _ _ _ again =>
      cases successor with
      | running _ _ => cases again
      | _ => rfl
  | visits _ _ _ _ | goes _ _ _ _ _ | starts _ _ => cases idle
  | _ => rfl

end Storyline
