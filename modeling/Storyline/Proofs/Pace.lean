import Storyline.Proofs.Barriers
import Storyline.Proofs.Ground

set_option autoImplicit false

/-!
The pace of a story. Commands of the built-in kinds, other than those that stop playback or play beside the caret, do one thing
to the ground at most; the rest of what they do takes time, shows something or asks for input. So whoever takes the caret along,
at whatever pace, takes it along the same course.
-/

namespace Storyline

/-! ### Tame commands -/

-- Effects that take their time and leave the ground alone.
def Effect.isPace : Effect → Bool
  | .say _ | .askInput | .rest _ | .barrier | .awaitOthers | .completeOthers | .blend .. => true
  | _ => false

def Effect.isTurn : Effect → Bool
  | .assign .. | .jump _ | .call _ | .goBack | .transition _ | .cover => true
  | _ => false

def Kind.isTame : Kind → Bool
  | .stop | .delay _ | .custom _ => false
  | _ => true

def Command.isTame (command : Command) : Bool := command.wait && command.kind.isTame

def Playlist.isTame (p : Playlist) : Bool := p.commands.toList.all Command.isTame

theorem Playlist.tame_command (p : Playlist) (tame : p.isTame = true) (index : Nat) (command : Command)
    (found : p.command? index = some command) : command.wait = true ∧ command.kind.isTame = true := by
  have member : command ∈ p.commands.toList := Array.mem_toList_iff.mpr (Array.mem_of_getElem? found)
  exact Bool.and_eq_true_iff.mp (List.all_eq_true.mp tame command member)

-- The first effect may be of any kind that is left, once the picture is captured; all others take their time.
def Effect.simple : List Effect → Bool
  | [] => true
  | .capture :: others => Effect.simple others
  | effect :: others => (effect.isPace || effect.isTurn) && others.all Effect.isPace

theorem Effect.simple_cons (effect : Effect) (others : List Effect) (other : effect ≠ .capture) :
    Effect.simple (effect :: others) = ((effect.isPace || effect.isTurn) && others.all Effect.isPace) := by
  rw [Effect.simple]
  exact other

theorem Kind.tame_effects (kind : Kind) (tame : kind.isTame = true) : Effect.simple kind.effects = true := by
  cases kind with
  | stop | delay _ | custom _ => cases tame
  | print line =>
      simp only [Kind.effects]
      split <;> rfl
  | _ => rfl

theorem Effect.simple_of_pace (effects : List Effect) (pace : effects.all Effect.isPace = true) :
    Effect.simple effects = true := by
  cases effects with
  | nil => rfl
  | cons effect rest =>
      obtain ⟨first, others⟩ := Bool.and_eq_true_iff.mp (List.all_cons ▸ pace)
      rw [Effect.simple_cons, first, others]
      · rfl
      · rintro rfl
        cases first

theorem Ground.turn_pace (ground : Ground) (loaded : Loaded) (index : Nat) (spot : Spot) (effect : Effect)
    (pace : effect.isPace = true) : ground.turn loaded index spot effect = some ground := by
  cases effect with
  | assign _ _ _ | jump _ | call _ | goBack | transition _ | cover => cases pace
  | _ => rfl

theorem Ground.outcome_cons (ground : Ground) (loaded : Loaded) (index : Nat) (spot : Spot) (effect : Effect)
    (others : List Effect) (other : effect ≠ .capture) :
    ground.outcome loaded index spot (effect :: others) = ground.turn loaded index spot effect := by
  rw [outcome]
  exact other

theorem Ground.outcome_pace (ground : Ground) (loaded : Loaded) (index : Nat) (spot : Spot) (effects : List Effect)
    (pace : effects.all Effect.isPace = true) : ground.outcome loaded index spot effects = some ground := by
  cases effects with
  | nil => rfl
  | cons effect rest =>
      have first := List.all_eq_true.mp pace effect List.mem_cons_self
      rw [outcome_cons]
      · exact ground.turn_pace loaded index spot effect first
      · rintro rfl
        cases first

theorem Ending.of_soft (what : String) (interrupt : Option Interrupt) (done : Bool) (cause : Error)
    (broken : Ending.of? what interrupt done = some (.error cause)) : cause.fatal = false := by
  unfold Ending.of? at broken
  split at broken
  · exact Except.error.inj (Option.some.inj broken) ▸ rfl
  · cases broken
  · split at broken <;> cases broken

-- A presenter that does not report malformed nesting.
structure Presenter.Mild (presenter : Presenter) : Prop where
  say : ∀ line reveal cause, (presenter.say line reveal).failure = some cause → cause.fatal = false
  capture : ∀ cause, presenter.capture.failure = some cause → cause.fatal = false
  blend : ∀ millis cancelled cause, (presenter.blend millis cancelled).failure = some cause → cause.fatal = false

theorem Player.reframe_of_frame {player after : Player} (same : after.frame = player.frame) :
    after.ground = player.ground ∧ after.frame = player.reframe after.ground := by
  have ground : after.ground = player.ground := congrArg Frame.ground same
  exact ⟨ground, by rw [same, ground]; rfl⟩

theorem Player.reframe_of_reframe {player after : Player} {there : Ground} (same : after.frame = player.reframe there) :
    after.ground = there ∧ after.frame = player.reframe after.ground := by
  have ground : after.ground = there := congrArg Frame.ground same
  exact ⟨ground, by rw [same, ground]⟩

/-! ### Commands under way -/

namespace Execution

-- A tame command on its way. While it waits there is nothing left that does anything to the ground, or the wait cannot be
-- broken off.
structure Simple (execution : Execution) : Prop where
  effects : Effect.simple execution.todo = true
  lane : execution.lane = .main
  waits : ∀ wait, execution.wait = some wait → execution.todo.all Effect.isPace = true ∨ ∃ deadline, wait = .pause deadline

-- The ground after the command.
def outcome (execution : Execution) (ground : Ground) : Option Ground :=
  ground.outcome execution.loaded execution.index execution.command.spot execution.todo

-- A move of a command that is to lead to the expected ground.
def Treads (player : Player) (expected : Option Ground) (progress : Progress) (after : Player) : Prop :=
  match progress with
  | .going next =>
      next.Simple ∧ after.frame = player.reframe after.ground ∧ next.outcome after.ground = expected
  | .ended (.ok ()) => after.frame = player.reframe after.ground ∧ expected = some after.ground
  | .ended (.error cause) =>
      if cause.fatal then expected = none else after.frame = player.reframe after.ground ∧ expected = some after.ground

section Perform

variable (execution : Execution) (player : Player) (mild : player.presenter.Mild) (begun : execution.begun = true)
  (lane : execution.lane = .main) (rest : execution.effects.all Effect.isPace = true)

include begun lane rest in
theorem simple_rest (wait : Option Wait) : Simple { execution with wait := wait } := by
  have todo : todo { execution with wait := wait } = execution.effects := if_pos begun
  exact ⟨by rw [todo]; exact Effect.simple_of_pace _ rest, lane, fun _ _ => by rw [todo]; exact .inl rest⟩

include begun rest in
theorem outcome_rest (wait : Option Wait) (ground : Ground) : outcome { execution with wait := wait } ground = some ground := by
  have todo : todo { execution with wait := wait } = execution.effects := if_pos begun
  rw [outcome, todo]
  exact ground.outcome_pace _ _ _ _ rest

include begun lane rest in
theorem proceed_treads (wait : Option Wait) (after : Player) (there : Ground) (frame : after.frame = player.reframe there) :
    Treads player (some there) (.going { execution with wait := wait }) after := by
  obtain ⟨ground, same⟩ := Player.reframe_of_reframe frame
  exact ⟨execution.simple_rest begun lane rest wait, same, by rw [execution.outcome_rest begun rest wait, ground]⟩

include begun lane rest in
theorem stay_treads (wait : Option Wait) (after : Player) (frame : after.frame = player.frame) :
    Treads player (some player.ground) (.going { execution with wait := wait }) after :=
  execution.proceed_treads player begun lane rest wait after player.ground frame

include begun lane rest in
theorem push_treads (awake : execution.wait = none) (more : List Effect) (slow : more.all Effect.isPace = true) (after : Player)
    (there : Ground) (frame : after.frame = player.reframe there) :
    Treads player (some there) (.going (execution.push more)) after := by
  have all : (execution.push more).effects.all Effect.isPace = true := by
    rw [push, List.all_append, slow, rest]
    rfl
  have same : execution.push more = { execution.push more with wait := none } := by rw [push, ← awake]
  rw [same]
  exact (execution.push more).proceed_treads player begun lane all none after there frame

include begun lane rest in
theorem film_treads (awake : execution.wait = none) (effect : Effect) (kind : (effect.isPace || effect.isTurn) = true) :
    Treads player
      (if player.ground.films then player.ground.turn execution.loaded execution.index execution.command.spot effect
        else some player.ground)
      (.going (execution.push [.capture, effect])) player := by
  have todo : (execution.push [.capture, effect]).todo = .capture :: effect :: execution.effects := if_pos begun
  have other : effect ≠ .capture := by
    rintro rfl
    cases kind
  have kinds : Effect.simple (effect :: execution.effects) = true := by
    rw [Effect.simple_cons effect _ other, kind, rest, Bool.and_true]
  refine ⟨⟨?_, lane, fun wait waits => ?_⟩, rfl, ?_⟩
  · rw [todo, Effect.simple]
    exact kinds
  · cases awake.symm.trans waits
  · rw [outcome, todo, Ground.outcome, Ground.outcome_cons _ _ _ _ effect _ other]
    rfl

include begun lane rest in
theorem play_treads (awake : execution.wait = none) (cue : Cue) (token : Token)
    (mild : ∀ cause, cue.failure = some cause → cause.fatal = false) :
    Treads player (some player.ground) (execution.play cue token player).1 (execution.play cue token player).2 := by
  have opened := (player.notes_edits cue.opening).frame rfl
  unfold play
  split
  · next cause failure =>
      obtain ⟨ground, frame⟩ := Player.reframe_of_frame opened
      have soft : cause.fatal = false := mild cause (by assumption)
      simp only [Treads, soft, Bool.false_eq_true, if_false]
      exact ⟨frame, by rw [ground]⟩
  · exact execution.stay_treads player begun lane rest _ _ opened
  · have closed := ((Player.notes_edits _ cue.closing).frame rfl).trans opened
    have same : execution = { execution with wait := none } := by rw [← awake]
    rw [same]
    exact execution.stay_treads player begun lane rest none _ closed

include begun lane rest in
theorem unless_failed_treads (awake : execution.wait = none) (expected : Option Ground) (changed : Except Error Unit × Player)
    (grounds : player.Grounds expected changed) :
    Treads player expected (execution.unlessFailed changed).1 (execution.unlessFailed changed).2 := by
  obtain ⟨result, after⟩ := changed
  cases result with
  | ok _ =>
      obtain ⟨there, rfl, frame⟩ := grounds
      have same : execution = { execution with wait := none } := by rw [← awake]
      simp only [unlessFailed, proceed]
      rw [same]
      exact execution.proceed_treads player begun lane rest none after there frame
  | error cause =>
      obtain ⟨none, fatal, _⟩ := grounds
      simp only [unlessFailed, Treads, fatal, if_true]
      exact none

include begun lane mild in
-- What a picture is captured for is left out if it cannot be captured.
theorem capture_treads (awake : execution.wait = none) (kinds : Effect.simple execution.effects = true) :
    Treads player
      (player.ground.outcome execution.loaded execution.index execution.command.spot (.capture :: execution.effects))
      (execution.perform .capture player).1 (execution.perform .capture player).2 := by
  have opened := (player.notes_edits player.presenter.capture.opening).frame rfl
  obtain ⟨ground, frame⟩ := Player.reframe_of_frame opened
  have films : player.ground.films = player.presenter.capture.failure.isNone := rfl
  rw [execution.perform_capture, Ground.outcome, films]
  rcases execution.capture_comes player awake with ⟨cause, failure, ended⟩ | ⟨shot, wait, calm, going⟩
  · simp only [ended, Treads, failure, mild.capture cause failure, Option.isNone_some, Bool.false_eq_true, if_false]
    exact ⟨frame, by rw [ground]⟩
  · have todo : todo { execution with wait := wait } = execution.effects := if_pos begun
    simp only [going, shot, Option.isNone_none, if_true]
    refine ⟨⟨by rw [todo]; exact kinds, lane, fun own waits => .inr (calm own waits)⟩, frame, ?_⟩
    rw [outcome, todo, ground]

include begun lane rest mild in
theorem perform_treads (awake : execution.wait = none) (effect : Effect) (kind : (effect.isPace || effect.isTurn) = true) :
    Treads player (player.ground.turn execution.loaded execution.index execution.command.spot effect)
      (execution.perform effect player).1 (execution.perform effect player).2 := by
  have stays (after : Player) (frame : after.frame = player.frame) :
      Treads player (some player.ground) (.going execution) after := by
    have same : execution = { execution with wait := none } := by rw [← awake]
    rw [same]
    exact execution.stay_treads player begun lane rest none after frame
  have lands (after : Player) (there : Ground) (frame : after.frame = player.reframe there) :
      Treads player (some there) (.going execution) after := by
    have same : execution = { execution with wait := none } := by rw [← awake]
    rw [same]
    exact execution.proceed_treads player begun lane rest none after there frame
  cases effect with
  | assign name op value =>
      have store : player.ground.store = player.store := rfl
      simp only [perform, Ground.turn, store]
      cases player.store.assign name op value with
      | ok changed => exact lands _ _ rfl
      | error cause => exact ⟨rfl, rfl⟩
  | say line => exact execution.play_treads player begun lane rest awake _ _ (mild.say _ _)
  | askInput =>
      simp only [perform, lane, if_true]
      exact stays _ ((player.set_waiting_edits true).frame rfl)
  | rest millis =>
      simp only [perform]
      split
      · exact stays _ rfl
      · exact execution.stay_treads player begun lane rest _ _ rfl
  | jump target => exact execution.unless_failed_treads player begun lane rest awake _ _ (player.jump_grounds target)
  | call target => exact execution.unless_failed_treads player begun lane rest awake _ _ (player.call_grounds target _)
  | goBack => exact lands _ _ player.go_back_frame
  | barrier =>
      simp only [perform]
      split
      · exact execution.push_treads player begun lane rest awake _ rfl _ _ rfl
      · exact stays _ rfl
  | awaitOthers =>
      simp only [perform]
      split
      · exact stays _ rfl
      · split
        · exact execution.push_treads player begun lane rest awake _ rfl _ _ rfl
        · exact execution.stay_treads player begun lane rest _ _ rfl
  | completeOthers =>
      have entered := (player.enter_rendezvous_edits none (some execution.id)).frame rfl
      exact execution.stay_treads player begun lane rest (some (.rendezvous (player.enterRendezvous none (some execution.id)).1))
        (player.enterRendezvous none (some execution.id)).2 entered
  | transition millis =>
      have flags : player.ground.raised.contains (execution.loaded.handle, execution.index) =
          player.isReturnVisit execution.loaded execution.index := rfl
      simp only [perform, Ground.turn, flags, mask, lane, if_true]
      split
      · exact execution.push_treads player begun lane rest awake _ rfl _ _ rfl
      · cases entered : execution.loaded.playlist.enters execution.index with
        | true =>
            simp only [if_true, Bool.true_and]
            exact execution.film_treads player begun lane rest awake .cover rfl
        | false =>
            simp only [Bool.false_eq_true, if_false, Bool.false_and]
            have treads := execution.film_treads player begun lane rest awake (.blend millis false) rfl
            rwa [show player.ground.turn _ _ _ (.blend millis false) = some player.ground from rfl, ite_self] at treads
  | cover =>
      simp only [perform, mask, lane, if_true]
      exact lands _ _ rfl
  | blend millis fresh => exact execution.play_treads player begun lane rest awake _ _ (mild.blend _ _)
  | _ => cases kind

end Perform

theorem wake_frame (execution : Execution) (wait : Wait) (player : Player) (result : Except Error Unit) (after : Player)
    (wakes : execution.wake? wait player = some (result, after)) :
    after.frame = player.frame ∧ ∀ cause, result = .error cause → cause.fatal = false := by
  refine ⟨(execution.wake_edits wait player _ wakes).frame (by cases wait <;> rfl), fun cause failed => ?_⟩
  subst failed
  cases wait with
  | sleep token what deadline closing =>
      simp only [wake?] at wakes
      split at wakes
      · cases wakes
      · next broken =>
          obtain ⟨same, _⟩ := Prod.mk.inj (Option.some.inj wakes)
          exact Except.error.inj same ▸ Ending.of_soft _ _ _ _ broken
      · cases wakes
  | barrier token =>
      simp only [wake?] at wakes
      split at wakes
      · cases wakes
      · next broken =>
          obtain ⟨same, _⟩ := Prod.mk.inj (Option.some.inj wakes)
          exact Except.error.inj same ▸ Ending.of_soft _ _ _ _ broken
      · cases wakes
      · cases wakes
  | pause deadline | others =>
      simp only [wake?] at wakes
      split at wakes <;> cases wakes
  | rendezvous role =>
      obtain ⟨left, _, same⟩ := Option.map_eq_some_iff.mp wakes
      cases same

theorem step_treads (execution : Execution) (player : Player) (progress : Progress) (after : Player)
    (mild : player.presenter.Mild) (simple : execution.Simple) (upheld : player.isAbandoned execution.token.full = false)
    (step : execution.step? player = some (progress, after)) :
    Treads player (execution.outcome player.ground) progress after := by
  cases execution.step_steps player progress after step with
  | wakes wait woken waits wakes moved =>
      obtain ⟨result, between⟩ := woken
      obtain ⟨frame, soft⟩ := execution.wake_frame wait player result between wakes
      obtain ⟨ground, same⟩ := Player.reframe_of_frame frame
      cases result with
      | ok _ =>
          obtain ⟨rfl, rfl⟩ := Prod.mk.inj moved
          exact ⟨⟨simple.effects, simple.lane, nofun⟩, same, by rw [ground]; rfl⟩
      | error cause =>
          obtain ⟨rfl, rfl⟩ := Prod.mk.inj moved
          rcases simple.waits wait waits with pace | ⟨deadline, rfl⟩
          · have nothing (there : Ground) : execution.outcome there = some there := there.outcome_pace _ _ _ _ pace
            simp only [Treads, soft cause rfl, Bool.false_eq_true, if_false]
            exact ⟨same, by rw [nothing, ground]⟩
          · simp only [wake?] at wakes
            split at wakes <;> cases wakes
  | gives _ _ given =>
      rw [upheld] at given
      cases given
  | begins awake unbegun same going =>
      subst same going
      have todo : execution.todo = execution.command.kind.effects := if_neg (by simp [unbegun])
      refine ⟨⟨?_, simple.lane, fun _ waits => by cases awake.symm.trans waits⟩, rfl, ?_⟩
      · exact todo ▸ simple.effects
      · rw [outcome, outcome, todo]
        rfl
  | does effect rest awake begun effects moved =>
      have todo : execution.todo = effect :: rest := (if_pos begun).trans effects
      have kinds := simple.effects
      rw [todo] at kinds
      rw [outcome, todo]
      by_cases films : effect = .capture
      · subst films
        have treads := capture_treads { execution with effects := rest } player mild begun simple.lane awake kinds
        rw [moved] at treads
        exact treads
      · rw [Effect.simple_cons effect rest films] at kinds
        obtain ⟨kind, pace⟩ := Bool.and_eq_true_iff.mp kinds
        have treads := perform_treads { execution with effects := rest } player mild begun simple.lane pace awake effect kind
        rw [moved] at treads
        rw [Ground.outcome_cons _ _ _ _ effect rest films]
        exact treads
  | ends awake begun effects same ended =>
      subst same ended
      have todo : execution.todo = [] := (if_pos begun).trans effects
      refine ⟨rfl, ?_⟩
      rw [outcome, todo]
      rfl

end Execution

/-! ### Who takes the caret along -/

-- The ground at which the pilot begins its next visit.
def Activity.destiny (player : Player) : Activity → Option Ground
  | .steering _ | .awaitingInput .. => some player.ground
  | .advancing _ => player.ground.advance
  | .running execution (.pilot _ epoch) => (execution.outcome player.ground).bind fun there => there.land epoch true
  | _ => none

-- What the pilot does on its way, under a full layer that is not raised.
def Activity.Aboard (pilot : Pilot) (layer : Nat) : Activity → Prop
  | .steering own | .advancing own => own = pilot
  | .awaitingInput generation .. => pilot = .loop generation
  | .running execution (.pilot own _) => own = pilot ∧ execution.Simple ∧ layer ≤ execution.token.full
  | _ => False

-- The way from a visit to the next one.
def Activity.isUnderWay : Activity → Bool
  | .running .. | .advancing _ => true
  | _ => false

-- The pilot goes on to where it is bound, or its way ends because it is bound nowhere.
inductive Sails (pilot : Pilot) (player : Player) (expected : Option Ground) (moved : Activity × Player) : Prop where
  | on (aboard : moved.1.Aboard pilot player.abandoned) (frame : moved.2.frame = player.reframe moved.2.ground)
      (bound : moved.1.destiny moved.2 = expected)
  | over_ (done : moved.1.isOver = true) (nowhere : expected = none) (short : moved.1 ≠ .finished (.flag true))

theorem Sails.from {pilot : Pilot} {before player : Player} {expected : Option Ground} {moved : Activity × Player}
    (sails : Sails pilot player expected moved) (frame : player.frame = before.reframe player.ground) :
    Sails pilot before expected moved := by
  cases sails with
  | on aboard after bound =>
      have abandoned : player.abandoned = before.abandoned := congrArg Frame.abandoned frame
      refine .on (abandoned ▸ aboard) ?_ bound
      rw [after, Player.reframe, frame]
      rfl
  | over_ done nowhere short => exact .over_ done nowhere short

namespace Player

variable (player : Player) (pilot : Pilot)

theorem fail_over (cause : Error) : (player.fail pilot cause).1.isOver = true ∧
    (player.fail pilot cause).1 ≠ .finished (.flag true) := by
  cases pilot with
  | loop generation => exact ⟨rfl, by simp [fail]⟩
  | trip trip => exact ⟨rfl, by simp [fail, disembark]⟩

theorem disembark_short (trip : Trip) : (player.disembark trip (.ok false)).1.isOver = true ∧
    (player.disembark trip (.ok false)).1 ≠ .finished (.flag true) := by
  unfold disembark
  dsimp only
  cases trip.wasPlaying with
  | false => exact ⟨rfl, by simp⟩
  | true =>
      rw [if_pos rfl]
      split
      · exact ⟨rfl, by simp⟩
      · exact ⟨rfl, by simp⟩

theorem disembark_stopped (trip : Trip) (stopped : trip.wasPlaying = false) (reached : Bool) :
    (player.disembark trip (.ok reached)).1 = .finished (.flag reached) ∧
      (player.disembark trip (.ok reached)).2.frame = player.frame := by
  refine ⟨by simp [disembark, stopped], ?_⟩
  simp only [disembark, stopped, Bool.false_eq_true, if_false]
  split
  · rfl
  · exact player.with_mode_frame _

section Current

variable (current : player.playback.generation = pilot.generation)
include current

theorem settle_sails (epoch : Nat) (passed : Bool) :
    Sails pilot player (player.ground.land epoch passed) (afterVisit pilot (player.settle pilot.generation epoch passed)) := by
  have same : player.ground.caret.epoch = player.playback.epoch := rfl
  unfold settle Ground.land
  rw [same]
  by_cases still : player.playback.epoch = epoch
  · have both : player.playback.generation = pilot.generation ∧ player.playback.epoch = epoch := ⟨current, still⟩
    rw [if_pos still, if_pos both]
    exact .on rfl rfl rfl
  · have astray : ¬(player.playback.generation = pilot.generation ∧ player.playback.epoch = epoch) := fun both => still both.2
    rw [if_neg still, if_neg astray]
    exact .on rfl rfl rfl

theorem visit_sails (tame : ∀ loaded command, player.playback.loaded = some loaded →
      loaded.playlist.command? player.playback.index = some command → command.wait = true ∧ command.kind.isTame = true) :
    Sails pilot player player.ground.course (afterVisit pilot (player.visit pilot.generation)) := by
  have executed : player.ground.caret.executed = player.playback.executed := rfl
  have loaded : player.ground.caret.loaded = player.playback.loaded := rfl
  have index : player.ground.caret.index = player.playback.index := rfl
  rw [visit, if_neg (not_not.mpr current), Ground.course, executed]
  cases player.playback.executed with
  | true => exact .on rfl rfl rfl
  | false =>
      simp only [Bool.false_eq_true, if_false]
      rw [loaded, index]
      cases here : player.playback.loaded with
      | none => exact .on rfl rfl rfl
      | some loaded =>
          dsimp only
          cases found : loaded.playlist.command? player.playback.index with
          | none => exact .on rfl rfl rfl
          | some command =>
              obtain ⟨awaited, kind⟩ := tame loaded command here found
              obtain ⟨passes, judged⟩ := player.guard_frame command
              obtain ⟨ground, framed⟩ := reframe_of_frame judged
              have epoch : player.ground.caret.epoch = player.playback.epoch := rfl
              generalize visits : ({ (player.passesGuard command).2 with
                played := (player.passesGuard command).2.played.add loaded.playlist.script player.playback.index } : Player) =
                  visited
              have frame : visited.frame = player.reframe (player.ground.visited loaded) := by
                rw [← visits]
                have written (before : Player) (same : before.frame = player.frame) :
                    Player.frame { before with played := before.played.add loaded.playlist.script player.playback.index } =
                      player.reframe (player.ground.visited loaded) := by
                  have added : Player.frame
                      { before with played := before.played.add loaded.playlist.script player.playback.index } =
                      { before.frame with ground := { before.frame.ground with
                        played := before.frame.ground.played.add loaded.playlist.script player.playback.index } } := rfl
                  rw [added, same]
                  rfl
                exact written _ judged
              obtain ⟨there, reframed⟩ := reframe_of_reframe frame
              simp only [runCommand, visits, passes, awaited, if_true]
              cases player.ground.passes command with
              | false =>
                  have generation : visited.playback.generation = pilot.generation :=
                    (congrArg Frame.generation frame).trans current
                  simp only [Bool.false_eq_true, if_false]
                  rw [← there, epoch]
                  exact (visited.settle_sails pilot generation player.playback.epoch false).from reframed
              | true =>
                  simp only [if_true]
                  have captured := ((Edit.capture visited command.spot).frame rfl).trans frame
                  have launched := ((Edit.launch _ loaded player.playback.index command .main).frame rfl).trans captured
                  have full : ((visited.capture command.spot).launch loaded player.playback.index command .main).1.token.full =
                      player.abandoned := congrArg Frame.abandoned captured
                  obtain ⟨ground, reframed⟩ := reframe_of_reframe launched
                  refine .on ⟨rfl, ⟨command.kind.tame_effects kind, rfl, nofun⟩, Nat.le_of_eq full.symm⟩ reframed ?_
                  exact congrArg (fun there : Ground => (there.outcome loaded player.playback.index command.spot
                    command.kind.effects).bind fun there => there.land player.playback.epoch true) ground

theorem advance_frame : match player.advance pilot.generation with
    | (.moved, after) => after.frame = player.reframe after.ground ∧ player.ground.advance = some after.ground
    | (.stale, _) => False
    | (.atEnd, _) | (.failed _, _) => player.ground.advance = none := by
  have executed : player.ground.caret.executed = player.playback.executed := rfl
  have loaded : player.ground.caret.loaded = player.playback.loaded := rfl
  rw [advance, if_neg (not_not.mpr current), Ground.advance, loaded]
  cases player.playback.loaded with
  | none => rfl
  | some loaded =>
      dsimp only
      rw [executed]
      cases player.playback.executed with
      | false => exact ⟨rfl, rfl⟩
      | true =>
          simp only [if_true]
          obtain ⟨same, frame⟩ := player.next_frame loaded player.playback.index player.playback.guardPassed
          have store : player.ground.store = player.store := rfl
          have index : player.ground.caret.index = player.playback.index := rfl
          have passed : player.ground.caret.guardPassed = player.playback.guardPassed := rfl
          rw [store, index, passed]
          generalize player.next loaded player.playback.index player.playback.guardPassed = next at same frame
          generalize loaded.playlist.advance player.store.get? player.playback.index player.playback.guardPassed
            (player.ground.trail loaded) = followed at same frame
          obtain ⟨result, after⟩ := next
          obtain ⟨outcome, trail⟩ := followed
          obtain rfl : result = outcome := same
          cases result with
          | error fault => rfl
          | ok next =>
              dsimp only
              by_cases past : loaded.playlist.length ≤ next
              · rw [if_pos past, if_pos past]
              · rw [if_neg past, if_neg past]
                have moved :=
                  (((after.moveCaret loaded next false).tell .stateChanged).check_skip_edits loaded.playlist.script next).frame rfl
                obtain ⟨there, _⟩ := reframe_of_reframe frame
                have framed := moved.trans ((tell_frame _ .stateChanged rfl).trans (after.move_caret_frame loaded next false))
                rw [there, reframe, frame] at framed
                obtain ⟨ground, reframed⟩ := @reframe_of_reframe player _ _ framed
                exact ⟨reframed, congrArg some ground.symm⟩

theorem advance_sails : Sails pilot player player.ground.advance (player.advancePilot pilot) := by
  have moves := player.advance_frame pilot current
  unfold advancePilot
  generalize player.advance pilot.generation = advanced at moves
  obtain ⟨result, after⟩ := advanced
  cases result with
  | moved => exact .on rfl moves.1 moves.2.symm
  | stale => exact moves.elim
  | failed cause =>
      obtain ⟨done, short⟩ := after.fail_over pilot cause
      exact .over_ done moves short
  | atEnd =>
      cases pilot with
      | loop generation => exact .over_ rfl moves (by simp)
      | trip trip =>
          obtain ⟨done, short⟩ := (after.warn "Fast-forward ran out of commands").disembark_short trip
          exact .over_ done moves short

theorem running_sails (execution : Execution) (epoch : Nat) (mild : player.presenter.Mild) (simple : execution.Simple)
    (upheld : player.abandoned ≤ execution.token.full) (moved : Activity × Player)
    (step : (Activity.running execution (.pilot pilot epoch)).step? player = some moved) :
    Sails pilot player ((execution.outcome player.ground).bind fun there => there.land epoch true) moved := by
  obtain ⟨⟨progress, between⟩, went, rest⟩ := Option.map_eq_some_iff.mp step
  have alive : player.isAbandoned execution.token.full = false := decide_eq_false (Nat.not_lt.mpr upheld)
  have treads := execution.step_treads player progress between mild simple alive went
  cases progress with
  | going next =>
      subst rest
      obtain ⟨simple, frame, bound⟩ := treads
      have token := (Execution.origin_same (execution.step_going next player between went).1).2.2.2
      exact .on ⟨rfl, simple, token ▸ upheld⟩ frame (congrArg (fun there => there.bind fun there => there.land epoch true) bound)
  | ended result =>
      have finished := (between.finish_edits execution result).frame rfl
      obtain ⟨same, framed⟩ := reframe_of_frame finished
      -- the command is over, and the pilot goes on
      have lands (frame : between.frame = player.reframe between.ground)
          (bound : execution.outcome player.ground = some between.ground)
          (passes : (between.finish execution result).1 = .ok ()) :
          Sails pilot player ((execution.outcome player.ground).bind fun there => there.land epoch true) moved := by
        have generation : (between.finish execution result).2.playback.generation = pilot.generation :=
          (congrArg Frame.generation (finished.trans frame)).trans current
        have settles := (between.finish execution result).2.settle_sails pilot generation epoch true
        have resumed : (between.finish execution result).2.resumeCaller (.pilot pilot epoch) (between.finish execution result).1 =
            moved := rest
        rw [passes] at resumed
        rw [bound, Option.bind_some, ← same, ← resumed]
        refine settles.from ?_
        rw [finished, frame, same]
      cases result with
      | ok _ => exact lands treads.1 treads.2 rfl
      | error cause =>
          cases fatal : cause.fatal with
          | false =>
              simp only [Execution.Treads, fatal, Bool.false_eq_true, if_false] at treads
              refine lands treads.1 treads.2 ?_
              simp only [finish, fatal, Bool.false_eq_true, if_false]
              split <;> rfl
          | true =>
              simp only [Execution.Treads, fatal, if_true] at treads
              have halts : cause.isCancelled = false := by
                cases cause with
                | cancelled what => cases fatal
                | _ => rfl
              have resumed : (between.finish execution (.error cause)).2.resumeCaller (.pilot pilot epoch)
                  (between.finish execution (.error cause)).1 = moved := rest
              have fails : (between.finish execution (.error cause)).1 = .error cause := by
                simp [finish, halts, fatal]
              rw [fails] at resumed
              obtain ⟨done, short⟩ := (between.finish execution (.error cause)).2.fail_over pilot cause
              rw [← resumed]
              exact .over_ done (by rw [treads]; rfl) short

theorem under_way_sails (activity : Activity) (mild : player.presenter.Mild) (aboard : activity.Aboard pilot player.abandoned)
    (under_way : activity.isUnderWay = true) (moved : Activity × Player) (step : activity.step? player = some moved) :
    Sails pilot player (activity.destiny player) moved := by
  cases activity with
  | advancing own =>
      obtain rfl : own = pilot := aboard
      obtain rfl : player.advancePilot own = moved := Option.some.inj step
      exact player.advance_sails own current
  | running execution caller =>
      cases caller with
      | pilot own epoch =>
          obtain ⟨rfl, simple, upheld⟩ := aboard
          exact player.running_sails own current execution epoch mild simple upheld moved step
      | _ => exact aboard.elim
  | _ => cases under_way

end Current

end Player

end Storyline
