import Storyline.Player.World

set_option autoImplicit false

/-!
Two players that differ only in how often everything was given up and in how often the caret was moved. Tokens and epochs are
compared and never shown, so such players go on in the same way, whatever they are asked. What appeared on the stage may
differ; nothing reads it.
-/

namespace Storyline

def Token.later (token : Token) : Token := { token with full := token.full + 1 }

def Wait.later : Wait → Wait
  | .sleep token what deadline closing => .sleep token.later what deadline closing
  | .barrier token => .barrier token.later
  | wait => wait

def Execution.later (execution : Execution) : Execution :=
  { execution with token := execution.token.later, wait := execution.wait.map Wait.later }

def Run.later (run : Run) : Run := { run with full := run.full + 1 }

def Caller.later : Caller → Caller
  | .nobody => .nobody
  | .pilot who epoch => .pilot who (epoch + 1)
  | .run own => .run own.later

def Activity.later : Activity → Activity
  | .running execution caller => .running execution.later caller.later
  | .deferred run deadline => .deferred run.later deadline
  | .transient run => .transient run.later
  | activity => activity

def Notice.later : Notice → Notice
  | .spawned activity => .spawned activity.later
  | notice => notice

def Playback.later (playback : Playback) (passed : Bool) : Playback :=
  { playback with epoch := playback.epoch + 1, guardPassed := passed }

-- Whether a guard held matters when the caret moves on from a host that has run.
def Playback.Ignores (playback : Playback) (passed : Bool) : Prop :=
  playback.executed = true → passed = playback.guardPassed ∨
    ∀ loaded ∈ playback.loaded, loaded.playlist.isHost playback.index = false

def Player.later (player : Player) (stage : List (Nat × String)) (passed : Bool) : Player :=
  { player with
    abandoned := player.abandoned + 1
    playback := player.playback.later passed
    outbox := player.outbox.map Notice.later
    stage := stage }

def Later (before after : Player) : Prop :=
  ∃ stage passed, before.playback.Ignores passed ∧ after = before.later stage passed

-- The same result beside a player that is later.
def Echoes {Result : Type} (after : Result → Result) (one other : Result × Player) : Prop :=
  other.1 = after one.1 ∧ Later one.2 other.2

theorem Echoes.split {Result : Type} {after : Result → Result} {one other : Result × Player}
    (echoes : Echoes after one other) :
    ∃ result player more, one = (result, player) ∧ other = (after result, more) ∧ Later player more :=
  ⟨one.1, one.2, other.2, rfl, by rw [← echoes.1], echoes.2⟩

theorem rel_map {One Two Three Four : Type} {first : One → Two → Prop} {second : Three → Four → Prop}
    {one : Option One} {other : Option Two} (rel : Option.Rel first one other) {left : One → Three} {right : Two → Four}
    (maps : ∀ {a b}, first a b → second (left a) (right b)) : Option.Rel second (one.map left) (other.map right) := by
  cases rel with
  | none => exact .none
  | some held => exact .some (maps held)

namespace Player

section Later

variable {player other : Player} (later : Later player other)
include later

theorem playback_later : ∃ passed, player.playback.Ignores passed ∧ other.playback = player.playback.later passed := by
  obtain ⟨stage, passed, ignores, rfl⟩ := later
  exact ⟨passed, ignores, rfl⟩

/-! ### What is the same -/

theorem mode_later : other.playback.mode = player.playback.mode := by
  obtain ⟨stage, passed, ignores, rfl⟩ := later
  rfl

theorem live_later (generation : Nat) : other.playback.isLive generation = player.playback.isLive generation := by
  obtain ⟨stage, passed, ignores, rfl⟩ := later
  rfl

theorem executing_later : other.executing = player.executing := by
  obtain ⟨stage, passed, ignores, rfl⟩ := later
  rfl

theorem clock_later : other.clock = player.clock := by
  obtain ⟨stage, passed, ignores, rfl⟩ := later
  rfl

theorem index_later : other.playback.index = player.playback.index := by
  obtain ⟨stage, passed, ignores, rfl⟩ := later
  rfl

theorem store_later : other.store = player.store := by
  obtain ⟨stage, passed, ignores, rfl⟩ := later
  rfl

theorem script_later : other.playback.script? = player.playback.script? := by
  obtain ⟨stage, passed, ignores, rfl⟩ := later
  rfl

theorem loaded_later : other.playback.loaded = player.playback.loaded := by
  obtain ⟨stage, passed, ignores, rfl⟩ := later
  rfl

theorem library_later : other.library = player.library := by
  obtain ⟨stage, passed, ignores, rfl⟩ := later
  rfl

/-! ### Telling and writing down -/

theorem publish_later (event : Event) : Later (player.publish event) (other.publish event) := by
  obtain ⟨stage, passed, ignores, rfl⟩ := later
  exact ⟨stage, passed, ignores, rfl⟩

theorem tell_later (notice : Notice) : Later (player.tell notice) (other.tell notice.later) := by
  obtain ⟨stage, passed, ignores, rfl⟩ := later
  exact ⟨stage, passed, ignores, rfl⟩

theorem note_later (text : String) : Later (player.note text) (other.note text) := by
  obtain ⟨stage, passed, ignores, rfl⟩ := later
  exact ⟨(player.clock, text) :: stage, passed, ignores, rfl⟩

theorem notes_later (lines : List String) : Later (player.notes lines) (other.notes lines) := by
  induction lines generalizing player other with
  | nil => exact later
  | cons line lines ih => exact ih (note_later later line)

theorem logged_later (level : LogLevel) (text : String) : Later (player.logged level text) (other.logged level text) := by
  obtain ⟨stage, passed, ignores, rfl⟩ := later
  exact ⟨stage, passed, ignores, rfl⟩

theorem warn_failures_later (failures : List ExprError) :
    Later (player.warnFailures failures) (other.warnFailures failures) := by
  unfold warnFailures
  induction failures.reverse generalizing player other with
  | nil => exact later
  | cons failure rest ih => exact ih (logged_later later _ _)

theorem guard_later (command : Command) : Echoes id (player.passesGuard command) (other.passesGuard command) := by
  have store := store_later later
  unfold passesGuard
  rw [store]
  split
  · exact ⟨rfl, later⟩
  · split
    · exact ⟨rfl, later⟩
    · exact ⟨rfl, warn_failures_later later _⟩

theorem next_later (loaded : Loaded) (index : Nat) (held : Bool) :
    Echoes id (player.next loaded index held) (other.next loaded index held) := by
  obtain ⟨stage, passed, ignores, rfl⟩ := later
  refine ⟨rfl, warn_failures_later ?_ _⟩
  exact ⟨stage, passed, ignores, rfl⟩

theorem clear_visits_later (loaded : Loaded) : Later (player.clearVisits loaded) (other.clearVisits loaded) := by
  obtain ⟨stage, passed, ignores, rfl⟩ := later
  exact ⟨stage, passed, ignores, rfl⟩

theorem permit_rollback_later : Later player.permitRollback other.permitRollback := by
  obtain ⟨stage, passed, ignores, rfl⟩ := later
  simp only [permitRollback, Player.later, Playback.later]
  split
  · exact ⟨stage, passed, ignores, rfl⟩
  · exact ⟨stage, passed, ignores, rfl⟩

theorem capture_later (spot : Spot) : Later (player.capture spot) (other.capture spot) := by
  obtain ⟨stage, passed, ignores, rfl⟩ := later
  have config : (player.later stage passed).rollbackConfig = player.rollbackConfig := rfl
  unfold capture
  rw [config]
  split
  · exact ⟨stage, passed, ignores, rfl⟩
  · exact ⟨stage, passed, ignores, rfl⟩

/-! ### Modes -/

theorem publish_mode_later (change : ModeChange) : Later (player.publishMode change) (other.publishMode change) := by
  have announce {player other : Player} (later : Later player other) (flag : Option Bool) (event : Bool → Event) :
      Later (flag.elim player fun value => player.publish (event value))
        (flag.elim other fun value => other.publish (event value)) := by
    cases flag with
    | none => exact later
    | some value => exact publish_later later _
  obtain ⟨skip, autoPlay, waiting⟩ := change
  have announced := announce (announce (announce later skip .skipChanged) autoPlay .autoPlayChanged) waiting .waitingForInput
  unfold publishMode
  cases skip <;> cases autoPlay <;> cases waiting
  · exact announced
  all_goals exact tell_later announced .stateChanged

theorem with_mode_later (changed : ModeChange × Mode) : Later (player.withMode changed) (other.withMode changed) := by
  obtain ⟨stage, passed, ignores, rfl⟩ := later
  refine publish_mode_later ?_ _
  exact ⟨stage, passed, ignores, rfl⟩

theorem disable_skip_later : Later player.disableSkip other.disableSkip := by
  have same := mode_later later
  unfold disableSkip
  rw [same]
  exact with_mode_later later _

theorem set_auto_play_later (enabled : Bool) : Later (player.setAutoPlay enabled) (other.setAutoPlay enabled) := by
  have same := mode_later later
  unfold setAutoPlay
  rw [same]
  exact with_mode_later later _

theorem set_waiting_later (waiting : Bool) : Later (player.setWaiting waiting) (other.setWaiting waiting) := by
  have same := mode_later later
  unfold setWaiting
  rw [same]
  simp only
  split
  · exact with_mode_later (permit_rollback_later later) _
  · exact with_mode_later later _

theorem set_skip_later (enabled : Bool) : Echoes id (player.setSkip enabled) (other.setSkip enabled) := by
  have mode := mode_later later
  have upcoming : other.upcomingVisited = player.upcomingVisited := by obtain ⟨stage, passed, ignores, rfl⟩ := later; rfl
  unfold setSkip
  rw [mode, upcoming]
  split
  · simp only
    split
    · split
      · exact ⟨rfl, with_mode_later (permit_rollback_later later) _⟩
      · exact ⟨rfl, with_mode_later later _⟩
    · exact ⟨rfl, logged_later later _ _⟩
  · exact ⟨rfl, disable_skip_later later⟩

/-! ### The caret -/

theorem move_caret_later (loaded : Loaded) (index : Nat) (executed : Bool) :
    Later (player.moveCaret loaded index executed) (other.moveCaret loaded index executed) := by
  obtain ⟨stage, passed, ignores, rfl⟩ := later
  exact ⟨stage, true, fun _ => .inl rfl, rfl⟩

theorem with_library_later (library : Library) : Later (player.withLibrary library) (other.withLibrary library) := by
  obtain ⟨stage, passed, ignores, rfl⟩ := later
  exact ⟨stage, passed, ignores, rfl⟩

theorem resolve_later (target : Target) : Echoes id (player.resolve target) (other.resolve target) := by
  have script := script_later later
  unfold resolve
  rw [script, library_later later]
  split
  · exact ⟨rfl, logged_later later _ _⟩
  · split
    · exact ⟨rfl, logged_later later _ _⟩
    · next loaded library _ =>
        have found := with_library_later later library
        simp only
        split
        · exact ⟨rfl, logged_later found _ _⟩
        · split
          · exact ⟨rfl, logged_later found _ _⟩
          · split
            · exact ⟨rfl, found⟩
            · exact ⟨rfl, found⟩

theorem jump_later (target : Target) : Echoes id (player.jump target) (other.jump target) := by
  obtain ⟨result, between, more, one, two, later⟩ := (resolve_later later target).split
  unfold jump
  rw [one, two]
  rcases result with cause | _ | ⟨loaded, index⟩
  · exact ⟨rfl, later⟩
  · exact ⟨rfl, later⟩
  · exact ⟨rfl, tell_later (move_caret_later later _ _ _) .stateChanged⟩

theorem call_later (target : Target) (spot : Spot) : Echoes id (player.call target spot) (other.call target spot) := by
  obtain ⟨result, between, more, one, two, stage, passed, ignores, rfl⟩ := (resolve_later later target).split
  unfold call
  rw [one, two]
  rcases result with cause | _ | ⟨loaded, index⟩
  · exact ⟨rfl, stage, passed, ignores, rfl⟩
  · exact ⟨rfl, stage, passed, ignores, rfl⟩
  · exact ⟨rfl, stage, true, fun _ => .inl rfl, rfl⟩

theorem go_back_later : Later player.goBack other.goBack := by
  obtain ⟨stage, passed, ignores, rfl⟩ := later
  have popped : Later
      { player with playback := { player.playback with returns := player.playback.returns.dropLast } }
      { player.later stage passed with playback :=
        { (player.later stage passed).playback with returns := (player.later stage passed).playback.returns.dropLast } } :=
    ⟨stage, passed, ignores, rfl⟩
  simp only [goBack, show (player.later stage passed).playback.returns = player.playback.returns from rfl,
    show (player.later stage passed).library = player.library from rfl]
  split
  · exact logged_later ⟨stage, passed, ignores, rfl⟩ _ _
  · split
    · exact logged_later popped _ _
    · split
      · exact logged_later (with_library_later popped _) _ _
      · exact tell_later (move_caret_later (with_library_later popped _) _ _ _) .stateChanged

/-! ### Starting and stopping -/

theorem stop_for_later (reason : StopReason) : Later (player.stopFor reason) (other.stopFor reason) := by
  obtain ⟨stage, passed, ignores, rfl⟩ := later
  unfold stopFor
  simp only [show (player.later stage passed).playback.playing = player.playback.playing from rfl]
  split
  · exact ⟨stage, passed, ignores, rfl⟩
  · exact ⟨stage, passed, ignores, rfl⟩

theorem stop_loop_later (generation : Nat) (reason : StopReason) :
    Later (player.stopLoop generation reason) (other.stopLoop generation reason) := by
  have live := live_later later generation
  unfold stopLoop
  rw [live]
  split
  · exact stop_for_later later reason
  · exact later

theorem halt_later (generation : Nat) (cause : Error) : Later (player.halt generation cause) (other.halt generation cause) :=
  stop_loop_later (logged_later later _ _) _ _

theorem start_later : Echoes id player.start other.start := by
  obtain ⟨stage, passed, ignores, rfl⟩ := later
  simp only [start, show (player.later stage passed).playback.playing = player.playback.playing from rfl,
    show (player.later stage passed).playback.spot? = player.playback.spot? from rfl]
  split
  · exact ⟨rfl, stage, passed, ignores, rfl⟩
  · split
    · exact ⟨rfl, stage, passed, ignores, rfl⟩
    · exact ⟨rfl, stage, passed, ignores, rfl⟩

theorem abandon_later : Later player.abandon other.abandon := by
  obtain ⟨stage, passed, ignores, rfl⟩ := later
  exact ⟨stage, passed, ignores, rfl⟩

theorem entry_later (script : String) (label : Option String) :
    Echoes id (player.entry script label) (other.entry script label) := by
  unfold entry
  rw [library_later later]
  split
  · exact ⟨rfl, later⟩
  · exact ⟨rfl, with_library_later later _⟩

theorem play_later (script : String) (label : Option String) :
    Echoes id (player.play script label) (other.play script label) := by
  obtain ⟨result, between, more, one, two, later⟩ := (entry_later later script label).split
  unfold play
  rw [one, two]
  rcases result with cause | ⟨loaded, index⟩
  · exact ⟨rfl, later⟩
  · obtain ⟨stage, passed, ignores, moved⟩ :=
      move_caret_later (clear_visits_later (stop_for_later later .requested) loaded) loaded index false
    have ready : (more.stop.clearVisits loaded).moveCaret loaded index false =
        ((between.stop.clearVisits loaded).moveCaret loaded index false).later stage passed := moved
    simp only [id_eq, ready]
    refine start_later ?_
    exact ⟨stage, passed, ignores, rfl⟩

theorem clear_all_visits_later (scripts : List Loaded) :
    Later (scripts.foldl clearVisits player) (scripts.foldl clearVisits other) := by
  induction scripts generalizing player other with
  | nil => exact later
  | cons loaded scripts ih => exact ih (clear_visits_later later loaded)

theorem clear_later : Later player.clear other.clear := by
  have emptied {one two : Player} (later : Later one two) :
      Later (({ one with played := {}, store := {}, history := one.history.clear }.tell .stateChanged).publish
          (.stopped none .reset))
        (({ two with played := {}, store := {}, history := two.history.clear }.tell .stateChanged).publish
          (.stopped none .reset)) := by
    obtain ⟨stage, passed, ignores, rfl⟩ := later
    exact ⟨stage, passed, ignores, rfl⟩
  obtain ⟨stage, passed, ignores, rfl⟩ := later
  have cleared : Later { player with playback := player.playback.clear }
      { player.later stage passed with playback := (player.later stage passed).playback.clear } :=
    ⟨stage, true, fun _ => .inl rfl, rfl⟩
  exact emptied (clear_all_visits_later cleared player.library.scripts)

theorem place_later (spot : Spot) : Echoes id (player.place spot) (other.place spot) := by
  unfold place
  rw [library_later later]
  split
  · exact ⟨rfl, later⟩
  · exact ⟨rfl, with_library_later later _⟩

theorem adopt_later (save : Save) : Echoes id (player.adopt save) (other.adopt save) := by
  obtain ⟨stage, passed, ignores, rfl⟩ := later
  have forgotten : Later
      { player with playback := { player.playback with returns := save.returns, masked := false } }
      { player.later stage passed with playback :=
        { (player.later stage passed).playback with returns := save.returns, masked := false } } :=
    ⟨stage, passed, ignores, rfl⟩
  have told := tell_later (with_mode_later forgotten
    ({ player.playback.mode.disableSkip.1 with
        waiting := (player.playback.mode.disableSkip.2.setWaiting save.waiting).1.waiting },
      (player.playback.mode.disableSkip.2.setWaiting save.waiting).2)) .stateChanged
  unfold adopt
  simp only [show (player.later stage passed).playback.mode = player.playback.mode from rfl]
  split
  · exact start_later told
  · exact ⟨rfl, told⟩

theorem restore_later (save : Save) : Echoes id (player.restore save) (other.restore save) := by
  unfold restore
  split
  · obtain ⟨stage, passed, ignores, rfl⟩ := later
    refine adopt_later ?_ save
    exact ⟨stage, true, fun _ => .inl rfl, rfl⟩
  · next spot _ =>
      obtain ⟨result, between, more, one, two, later⟩ := (place_later later spot).split
      rw [one, two]
      rcases result with cause | ⟨loaded, index⟩
      · exact ⟨rfl, later⟩
      · exact adopt_later (move_caret_later (clear_visits_later later loaded) loaded index save.executed) save

theorem replace_later (replacement : Replacement) :
    Echoes id (player.replace replacement) (other.replace replacement) := by
  cases replacement with
  | reset => exact ⟨rfl, clear_later later⟩
  | load save rollback =>
      obtain ⟨result, between, more, one, two, later⟩ := (restore_later later save).split
      simp only [replace, one, two]
      rcases result with cause | _
      · exact ⟨rfl, later⟩
      · exact ⟨rfl, later⟩

/-! ### Rendezvous -/

theorem enter_rendezvous_later (callback : Option String) (parked : Option Nat) :
    Echoes id (player.enterRendezvous callback parked) (other.enterRendezvous callback parked) := by
  obtain ⟨stage, passed, ignores, rfl⟩ := later
  have same : (player.later stage passed).rendezvous = player.rendezvous := rfl
  unfold enterRendezvous
  rw [same]
  by_cases leads : (player.rendezvous.enter callback).1 = .leader <;> cases parked <;>
    simp only [leads, if_true, if_false] <;> exact ⟨rfl, stage, passed, ignores, rfl⟩

theorem unpark_later (parked : Option Nat) : Later (player.unpark parked) (other.unpark parked) := by
  obtain ⟨stage, passed, ignores, rfl⟩ := later
  cases parked <;> exact ⟨stage, passed, ignores, rfl⟩

theorem leave_rendezvous_later (role : Role) (parked : Option Nat) :
    Option.Rel Later (player.leaveRendezvous? role parked) (other.leaveRendezvous? role parked) := by
  have executing := executing_later later
  have rendezvous : other.rendezvous = player.rendezvous := by obtain ⟨stage, passed, ignores, rfl⟩ := later; rfl
  unfold leaveRendezvous?
  rw [executing, rendezvous]
  cases role with
  | leader =>
      simp only
      split
      · refine .some (publish_later (unpark_later ?_ parked) _)
        obtain ⟨stage, passed, ignores, same⟩ := notes_later later player.rendezvous.conclude.1
        simp only [same]
        exact ⟨stage, passed, ignores, rfl⟩
      · exact .none
  | follower generation =>
      simp only
      split
      · exact .none
      · exact .some (unpark_later later parked)

/-! ### Commands in flight -/

theorem abandoned_later (full : Nat) : other.isAbandoned (full + 1) = player.isAbandoned full := by
  obtain ⟨stage, passed, ignores, rfl⟩ := later
  simp [isAbandoned, Player.later]

theorem completing_later (token : Token) : other.isCompleting token.later = player.isCompleting token := by
  obtain ⟨stage, passed, ignores, rfl⟩ := later
  rfl

theorem interrupt_later (token : Token) : other.interrupt? token.later = player.interrupt? token := by
  unfold interrupt?
  rw [completing_later later, show token.later.full = token.full + 1 from rfl, abandoned_later later]

theorem token_later : other.token = player.token.later := by
  obtain ⟨stage, passed, ignores, rfl⟩ := later
  rfl

theorem instant_later (lane : Lane) : other.isInstant lane = player.isInstant lane := by
  obtain ⟨stage, passed, ignores, rfl⟩ := later
  rfl

theorem after_later (millis : UInt64) : other.after millis = player.after millis := by
  obtain ⟨stage, passed, ignores, rfl⟩ := later
  rfl

theorem launch_later (loaded : Loaded) (index : Nat) (command : Command) (lane : Lane) :
    Echoes Execution.later (player.launch loaded index command lane) (other.launch loaded index command lane) := by
  obtain ⟨stage, passed, ignores, rfl⟩ := later
  exact ⟨rfl, stage, passed, ignores, rfl⟩

theorem finish_later (execution : Execution) (result : Except Error Unit) :
    Echoes id (player.finish execution result) (other.finish execution.later result) := by
  have announced : Later
      (({ player with executing := player.executing.unregister execution.id }.tell .executingChanged).publish
        (.commandExecuted execution.command.spot execution.command.name execution.lane))
      (({ other with executing := other.executing.unregister execution.id }.tell .executingChanged).publish
        (.commandExecuted execution.command.spot execution.command.name execution.lane)) := by
    obtain ⟨stage, passed, ignores, rfl⟩ := later
    exact ⟨stage, passed, ignores, rfl⟩
  unfold finish
  split
  · exact ⟨rfl, announced⟩
  · simp only
    split
    · exact ⟨rfl, announced⟩
    · split
      · exact ⟨rfl, logged_later announced _ _⟩
      · exact ⟨rfl, logged_later announced _ _⟩

theorem schedule_later (body : Playlist) (millis : UInt64) :
    Later (player.schedule body millis) (other.schedule body millis) := by
  obtain ⟨stage, passed, ignores, rfl⟩ := later
  unfold schedule
  by_cases now : millis = 0
  · simp only [now, if_true]
    exact ⟨stage, passed, ignores, rfl⟩
  · simp only [now, if_false]
    exact ⟨stage, passed, ignores, rfl⟩

end Later

end Player

end Storyline
