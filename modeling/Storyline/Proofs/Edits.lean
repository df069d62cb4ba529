import Storyline.Player.Step

set_option autoImplicit false

/-!
What the operations of a player are made of. Every operation is a row of edits, and every edit is of one facet of the player.
What is so for each edit of some facets is so for every operation that is made of them.
-/

namespace Storyline

def Activity.pilot? : Activity → Option Pilot
  | .steering pilot | .advancing pilot => some pilot
  | .awaitingInput generation _ _ => some (.loop generation)
  | .running _ (.pilot pilot _) => some pilot
  | _ => none

def Activity.execution? : Activity → Option Execution
  | .running execution _ => some execution
  | _ => none

-- The playlist that an activity plays beside the caret, or is going to play.
def Activity.plays? : Activity → Option Run
  | .deferred run _ | .transient run | .running _ (.run run) => some run
  | _ => none

-- What is ever started by itself.
def Activity.isNew : Activity → Bool
  | .steering (.loop _) | .deferred .. | .transient _ | .listening _ | .running _ .nobody => true
  | _ => false

def Notice.spawned? : Notice → Option Activity
  | .spawned activity => some activity
  | _ => none

/-! ### Changes of the mode -/

-- The flags that are announced.
structure Flags where
  skip : Bool := false
  autoPlay : Bool := false
  waiting : Bool := false
deriving DecidableEq

def Mode.flags (mode : Mode) : Flags := ⟨mode.skip, mode.autoPlay, mode.waiting⟩

def Flags.Exclusive (flags : Flags) : Prop := flags.skip = true → flags.autoPlay = false ∧ flags.waiting = false

def ModeChange.applied (change : ModeChange) (flags : Flags) : Flags :=
  ⟨change.skip.getD flags.skip, change.autoPlay.getD flags.autoPlay, change.waiting.getD flags.waiting⟩

-- What is announced of a change, newest first.
def ModeChange.news (change : ModeChange) : List Event :=
  change.waiting.toList.map .waitingForInput ++
    (change.autoPlay.toList.map .autoPlayChanged ++ change.skip.toList.map .skipChanged)

def ModeChange.notices (change : ModeChange) : List Notice := if change.isEmpty then [] else [.stateChanged]

theorem ModeChange.news_silent {α : Type} (change : ModeChange) (events : List Event) (view : Event → Option α)
    (silent : ∀ on, view (.skipChanged on) = none ∧ view (.autoPlayChanged on) = none ∧ view (.waitingForInput on) = none) :
    (change.news ++ events).filterMap view = events.filterMap view := by
  obtain ⟨skip, autoPlay, waiting⟩ := change
  cases skip <;> cases autoPlay <;> cases waiting <;> simp [news, silent]

theorem ModeChange.notices_silent {α : Type} (change : ModeChange) (outbox : List Notice) (view : Notice → Option α)
    (silent : view .stateChanged = none) : (change.notices ++ outbox).filterMap view = outbox.filterMap view := by
  unfold notices
  split <;> simp [silent]

namespace Mode

-- The change tells all that the new mode differs in, and skipping stays by itself.
structure Honest (mode : Mode) (changed : ModeChange × Mode) : Prop where
  told : changed.2.flags = changed.1.applied mode.flags
  exclusive : mode.flags.Exclusive → changed.2.flags.Exclusive

variable (mode : Mode)

@[simp] theorem turned_getD (before after : Bool) : (turned before after).getD before = after := by
  unfold turned
  split
  · next same => exact same
  · rfl

theorem force_skip_honest : mode.Honest mode.forceSkip :=
  ⟨by simp [forceSkip, flags, ModeChange.applied], fun _ _ => ⟨rfl, rfl⟩⟩

theorem disable_skip_honest : mode.Honest mode.disableSkip :=
  ⟨by simp [disableSkip, flags, ModeChange.applied], fun _ on => by cases on⟩

theorem set_auto_play_honest (enabled : Bool) : mode.Honest (mode.setAutoPlay enabled) := by
  cases enabled with
  | false =>
      refine ⟨by simp [setAutoPlay, flags, ModeChange.applied], fun exclusive on => ⟨rfl, ?_⟩⟩
      exact (exclusive (by simpa [setAutoPlay, flags] using on)).2
  | true => exact ⟨by simp [setAutoPlay, flags, ModeChange.applied], fun _ on => by simp [setAutoPlay, flags] at on⟩

theorem set_waiting_honest (waiting : Bool) : mode.Honest (mode.setWaiting waiting) := by
  unfold setWaiting
  split
  · exact ⟨rfl, id⟩
  · next free =>
      refine ⟨by simp [flags, ModeChange.applied], fun exclusive on => ⟨(exclusive on).1, ?_⟩⟩
      have skips : mode.skip = true := on
      have off : waiting = false := by simpa [skips] using free
      exact off

theorem set_waiting_skip (waiting : Bool) :
    (mode.setWaiting waiting).2.skip = mode.skip ∧ (mode.setWaiting waiting).2.skipMode = mode.skipMode := by
  unfold setWaiting
  split <;> exact ⟨rfl, rfl⟩

theorem adopt_honest (waiting : Bool) :
    mode.Honest ({ mode.disableSkip.1 with waiting := (mode.disableSkip.2.setWaiting waiting).1.waiting },
      (mode.disableSkip.2.setWaiting waiting).2) := by
  have free : ¬(waiting && mode.disableSkip.2.skip) = true := by simp [disableSkip]
  have awaited : mode.disableSkip.2.setWaiting waiting =
      ({ waiting := turned mode.disableSkip.2.waiting waiting }, { mode.disableSkip.2 with waiting := waiting }) :=
    if_neg free
  rw [awaited]
  exact ⟨by simp [disableSkip, flags, ModeChange.applied], fun _ on => by cases on⟩

end Mode

/-! ### Edits -/

-- What an edit changes.
inductive Facet where
  | beside
  | listener
  | store
  | library
  | playlists
  | flights
  | visits
  | launch
  | ending
  | parking
  | rendezvous
  | layer
  | snapshot
  | permission
  | history
  | mode
  | skip
  | stop
  | loop
  | caret
  | mark
  | played
  | returns
  | mask
  | helm
  | playback
  | everything
deriving DecidableEq

def Event.isPlain : Event → Bool
  | .completed | .transientFinished _ => true
  | _ => false

inductive Edit : Facet → Player → Player → Prop where
  | aside (player : Player) (log : List LogEntry) (stage : List (Nat × String)) (inlets : List Inlet) (voice : Bool) :
      Edit .beside player { player with log := log, stage := stage, inlets := inlets, voice := voice }
  | publish (player : Player) (event : Event) (plain : event.isPlain = true) : Edit .beside player (player.publish event)
  | tell (player : Player) (notice : Notice) (nobody : notice.spawned? = none) : Edit .beside player (player.tell notice)
  | store (player : Player) (store : Variables) : Edit .store player { player with store := store }
  | library (player : Player) (library : Library) : Edit .library player (player.withLibrary library)
  | playlist (player : Player) (activity : Activity) (apart : activity.pilot? = none) (idle : activity.execution? = none)
      (new : activity.isNew = true) (own : ∀ run, activity.plays? = some run → run.full ≤ player.abandoned) :
      Edit .playlists player (player.tell (.spawned activity))
  | listen (player : Player) (inlet : Nat) : Edit .listener player (player.tell (.spawned (.listening inlet)))
  | detach (player : Player) (execution : Execution) : Edit .flights player (player.tell (.spawned (.running execution .nobody)))
  | visits (player : Player) (raised : List (Nat × Nat)) (draws : Draws) :
      Edit .visits player { player with raised := raised, draws := draws }
  | launch (player : Player) (loaded : Loaded) (index : Nat) (command : Command) (lane : Lane) :
      Edit .launch player (player.launch loaded index command lane).2
  | ending (player : Player) (execution : Execution) :
      Edit .ending player (({ player with executing := player.executing.unregister execution.id }.tell .executingChanged).publish
        (.commandExecuted execution.command.spot execution.command.name execution.lane))
  | parking (player : Player) (executing : Executing) :
      Edit .parking player ({ player with executing := executing }.tell .executingChanged)
  | enter (player : Player) (callback : Option String) :
      Edit .rendezvous player { player with rendezvous := (player.rendezvous.enter callback).2 }
  | conclude (player : Player) : Edit .rendezvous player { player with rendezvous := player.rendezvous.conclude.2 }
  | abandon (player : Player) : Edit .layer player player.abandon
  | capture (player : Player) (spot : Spot) : Edit .snapshot player (player.capture spot)
  | permit (player : Player) : Edit .permission player player.permitRollback
  | rewind (player : Player) (snapshot : Snapshot) :
      Edit .history player { player with history := player.history.restore snapshot }
  | mode (player : Player) (changed : ModeChange × Mode) (honest : player.playback.mode.Honest changed)
      (kept : changed.2.skipMode = player.playback.mode.skipMode)
      (lowers : changed.2.skip = true → player.playback.mode.skip = true) : Edit .mode player (player.withMode changed)
  | skip (player : Player) (changed : ModeChange × Mode) (honest : player.playback.mode.Honest changed)
      (kept : changed.2.skipMode = player.playback.mode.skipMode) : Edit .skip player (player.withMode changed)
  | stop (player : Player) (reason : StopReason) (ordinary : reason ≠ .reset) : Edit .stop player (player.stopFor reason)
  | start (player : Player) : Edit .loop player player.start.2
  | caret (player : Player) (loaded : Loaded) (index : Nat) (executed : Bool) :
      Edit .caret player (player.moveCaret loaded index executed)
  | mark (player : Player) (passed : Bool) :
      Edit .mark player { player with playback := { player.playback with executed := true, guardPassed := passed } }
  | played (player : Player) (played : Played) : Edit .played player { player with played := played }
  | returns (player : Player) (returns : List Spot) :
      Edit .returns player { player with playback := { player.playback with returns := returns } }
  | mask (player : Player) (masked : Bool) :
      Edit .mask player { player with playback := { player.playback with masked := masked } }
  | helm (player : Player) :
      Edit .helm player { player with playback := { player.playback with generation := player.playback.generation + 1 } }
  | playback (player : Player) : Edit .playback player { player with playback := player.playback.clear }
  | everything (player : Player) (raised : List (Nat × Nat)) :
      Edit .everything player (({ player with
        playback := player.playback.clear, raised := raised, played := {}, store := {}, history := player.history.clear }.tell
          .stateChanged).publish (.stopped none .reset))

inductive Edits (facets : List Facet) (before : Player) : Player → Prop where
  | refl : Edits facets before before
  | step {facet : Facet} {between after : Player} (edits : Edits facets before between) (edit : Edit facet between after)
      (known : (Facet.beside :: facets).contains facet = true) : Edits facets before after

namespace Edits

variable {facets small : List Facet} {facet : Facet} {before between after : Player}

theorem and (edits : Edits facets before between) (edit : Edit facet between after)
    (known : (Facet.beside :: facets).contains facet = true) : Edits facets before after := .step edits edit known

theorem trans (first : Edits facets before between) (second : Edits facets between after) : Edits facets before after := by
  induction second with
  | refl => exact first
  | step _ edit known ih => exact .step ih edit known

theorem wider (edits : Edits small before after) (le : small.all facets.contains = true) :
    Edits facets before after := by
  induction edits with
  | refl => exact .refl
  | step _ edit known ih =>
      refine .step ih edit ?_
      simp only [List.contains_cons, Bool.or_eq_true] at known ⊢
      exact known.imp_right fun member => List.all_eq_true.mp le _ (List.contains_iff_mem.mp member)

theorem and_then (first : Edits facets before between) (second : Edits small between after)
    (le : small.all facets.contains = true) : Edits facets before after := first.trans (second.wider le)

-- What is so for every edit of the allowed facets, and for one edit after the other, is so for a row of them.
theorem lift {allowed : Facet → Bool} (edits : Edits facets before after) (holds : Player → Player → Prop)
    (all : facets.all allowed = true) (always : allowed .beside = true) (refl : ∀ player, holds player player)
    (trans : ∀ {one two three : Player}, holds one two → holds two three → holds one three)
    (each : ∀ {facet : Facet} {one two : Player}, Edit facet one two → allowed facet = true → holds one two) :
    holds before after := by
  induction edits with
  | refl => exact refl _
  | step _ edit known ih =>
      refine trans ih (each edit ?_)
      rcases List.mem_cons.mp (List.contains_iff_mem.mp known) with rfl | member
      · exact always
      · exact List.all_eq_true.mp all _ member

end Edits

theorem Edit.edits {facets : List Facet} {facet : Facet} {before after : Player} (edit : Edit facet before after)
    (known : (Facet.beside :: facets).contains facet = true) : Edits facets before after := .step .refl edit known

def Save.facets (save : Save) : List Facet :=
  save.spot.elim [.playback, .returns, .mask, .mode, .loop] fun _ =>
    [.library, .visits, .caret, .returns, .mask, .mode, .loop]

namespace Player

section Operations

variable (player : Player)

/-! ### Telling and writing down -/

theorem notes_aside (lines : List String) : ∃ stage, player.notes lines = { player with stage := stage } := by
  induction lines generalizing player with
  | nil => exact ⟨player.stage, rfl⟩
  | cons line lines ih => exact ih (player.note line)

theorem notes_edits (lines : List String) : Edits [] player (player.notes lines) := by
  obtain ⟨stage, same⟩ := player.notes_aside lines
  exact same ▸ (Edit.aside player _ stage _ _).edits rfl

theorem warn_failures_edits (failures : List ExprError) : Edits [] player (player.warnFailures failures) := by
  unfold warnFailures
  induction failures.reverse generalizing player with
  | nil => exact .refl
  | cons failure rest ih => exact .trans ((Edit.aside player _ _ _ _).edits rfl) (ih _)

theorem guard_edits (command : Command) : Edits [] player (player.passesGuard command).2 := by
  unfold passesGuard
  split
  · exact .refl
  · split
    · exact .refl
    · exact warn_failures_edits _ _

theorem next_edits (loaded : Loaded) (index : Nat) (passed : Bool) :
    Edits [.visits] player (player.next loaded index passed).2 :=
  .and_then ((Edit.visits player _ _).edits rfl) (warn_failures_edits _ _) rfl

theorem clear_visits_edit (loaded : Loaded) : Edit .visits player (player.clearVisits loaded) := .visits player _ player.draws

theorem clear_all_visits (scripts : List Loaded) : ∃ raised, scripts.foldl clearVisits player = { player with raised := raised } := by
  induction scripts generalizing player with
  | nil => exact ⟨player.raised, rfl⟩
  | cons loaded scripts ih => exact ih (player.clearVisits loaded)

theorem clear_all_visits_edits (scripts : List Loaded) : Edits [.visits] player (scripts.foldl clearVisits player) := by
  obtain ⟨raised, same⟩ := player.clear_all_visits scripts
  exact same ▸ (Edit.visits player raised player.draws).edits rfl

/-! ### Modes -/

theorem with_mode_eq (changed : ModeChange × Mode) : player.withMode changed =
    { player with
      playback := { player.playback with mode := changed.2 }
      events := changed.1.news ++ player.events
      outbox := changed.1.notices ++ player.outbox } := by
  obtain ⟨⟨skip, autoPlay, waiting⟩, mode⟩ := changed
  unfold withMode publishMode
  cases skip <;> cases autoPlay <;> cases waiting <;> rfl

theorem with_mode_playback (changed : ModeChange × Mode) :
    (player.withMode changed).playback = { player.playback with mode := changed.2 } := by
  rw [with_mode_eq]

theorem permit_rollback_mode : player.permitRollback.playback.mode = player.playback.mode := by
  unfold permitRollback
  split <;> rfl

theorem disable_skip_edit : Edit .mode player player.disableSkip :=
  .mode player _ (Mode.disable_skip_honest _) rfl fun skips => by cases skips

theorem set_auto_play_edit (enabled : Bool) : Edit .mode player (player.setAutoPlay enabled) := by
  refine .mode player _ (Mode.set_auto_play_honest _ enabled) rfl fun skips => ?_
  have both : (player.playback.mode.skip && !enabled) = true := skips
  exact (Bool.and_eq_true_iff.mp both).1

theorem force_skip_edit : Edit .skip player (player.withMode player.playback.mode.forceSkip) :=
  .skip player _ (Mode.force_skip_honest _) rfl

theorem set_waiting_edits (waiting : Bool) : Edits [.permission, .mode] player (player.setWaiting waiting) := by
  have mode := Mode.set_waiting_skip player.playback.mode waiting
  have honest := player.playback.mode.set_waiting_honest waiting
  unfold setWaiting
  by_cases raised : (player.playback.mode.setWaiting waiting).1.waiting = some true
  · simp only [raised, if_true]
    have same := player.permit_rollback_mode
    exact .and ((Edit.permit player).edits rfl) (.mode _ _ (same ▸ honest) (same ▸ mode.2) fun skips => same ▸ mode.1 ▸ skips) rfl
  · simp only [raised, if_false]
    exact (Edit.mode _ _ honest mode.2 fun skips => mode.1 ▸ skips).edits rfl

theorem set_skip_edits (enabled : Bool) : Edits [.permission, .mode, .skip] player (player.setSkip enabled).2 := by
  unfold setSkip
  cases enabled with
  | false => exact player.disable_skip_edit.edits rfl
  | true =>
      have honest := player.playback.mode.force_skip_honest
      simp only [if_true, Mode.enableSkip]
      by_cases permitted : player.playback.mode.permits player.upcomingVisited = true
      · simp only [permitted, if_true]
        split
        · have same := player.permit_rollback_mode
          exact .and ((Edit.permit player).edits rfl) (.skip _ _ (same ▸ honest) (same ▸ rfl)) rfl
        · exact (Edit.skip player _ honest rfl).edits rfl
      · simp only [permitted]
        exact (Edit.aside player _ _ _ _).edits rfl

theorem released_edits : Edits [.permission, .mode] player
    (if player.playback.mode.waiting then player.setWaiting false else player) := by
  split
  · exact set_waiting_edits _ _
  · exact .refl

theorem check_skip_edits (script : String) (index : Nat) : Edits [.mode] player (player.checkSkip script index) := by
  unfold checkSkip
  split
  · exact player.disable_skip_edit.edits rfl
  · exact .refl

/-! ### The caret -/

theorem resolve_edits (target : Target) : Edits [.library] player (player.resolve target).2 := by
  unfold resolve
  split
  · exact (Edit.aside player _ _ _ _).edits rfl
  · split
    · exact (Edit.aside player _ _ _ _).edits rfl
    · next loaded library _ =>
        have found : Edits [.library] player (player.withLibrary library) := (Edit.library player library).edits rfl
        simp only
        split
        · exact found.and (.aside _ _ _ _ _) rfl
        · split
          · exact found.and (.aside _ _ _ _ _) rfl
          · split
            · exact found
            · exact found

theorem jump_edits (target : Target) : Edits [.library, .caret] player (player.jump target).2 := by
  have resolved : Edits [.library, .caret] player (player.resolve target).2 := (resolve_edits player target).wider rfl
  unfold jump
  split
  · next found => rw [found] at resolved; exact resolved
  · next found => rw [found] at resolved; exact resolved
  · next found =>
      rw [found] at resolved
      exact (resolved.and (.caret _ _ _ _) rfl).and (.tell _ _ rfl) rfl

theorem call_jumps (target : Target) (spot : Spot) :
    ∃ returns, player.call target spot = ((player.jump target).1,
      { (player.jump target).2 with playback := { (player.jump target).2.playback with returns := returns } }) := by
  unfold call jump
  obtain ⟨_ | _ | _, after⟩ := player.resolve target <;> exact ⟨_, rfl⟩

theorem call_edits (target : Target) (spot : Spot) :
    Edits [.library, .caret, .returns] player (player.call target spot).2 := by
  obtain ⟨returns, same⟩ := player.call_jumps target spot
  rw [same]
  exact ((jump_edits player target).wider rfl).and (.returns _ returns) rfl

theorem go_back_edits : Edits [.library, .caret, .returns] player player.goBack := by
  unfold goBack
  split
  · exact (Edit.aside player _ _ _ _).edits rfl
  · have popped : Edits [.library, .caret, .returns] player
        { player with playback := { player.playback with returns := player.playback.returns.dropLast } } :=
      (Edit.returns player _).edits rfl
    simp only
    split
    · exact popped.and (.aside _ _ _ _ _) rfl
    · next loaded library _ =>
        have found := popped.and (.library _ library) rfl
        split
        · exact found.and (.aside _ _ _ _ _) rfl
        · exact (found.and (.caret _ _ _ _) rfl).and (.tell _ _ rfl) rfl

/-! ### Starting and stopping -/

theorem stop_edit : Edit .stop player player.stop := .stop player .requested (by decide)

theorem stop_loop_edits (generation : Nat) (reason : StopReason) (ordinary : reason ≠ .reset) :
    Edits [.stop] player (player.stopLoop generation reason) := by
  unfold stopLoop
  split
  · exact (Edit.stop player reason ordinary).edits rfl
  · exact .refl

theorem halt_edits (generation : Nat) (cause : Error) : Edits [.stop] player (player.halt generation cause) :=
  .and_then ((Edit.aside player _ _ _ _).edits rfl) (stop_loop_edits _ _ .structural (by decide)) rfl

theorem end_loop_edits (generation : Nat) : Edits [.stop] player (player.endLoop generation) := by
  unfold endLoop
  split
  · exact .and_then ((Edit.aside player _ _ _ _).edits rfl) (stop_loop_edits _ _ .endOfScript (by decide)) rfl
  · exact .refl

theorem entry_edits (script : String) (label : Option String) : Edits [.library] player (player.entry script label).2 := by
  unfold entry
  split
  · exact .refl
  · exact (Edit.library player _).edits rfl

theorem play_edits (script : String) (label : Option String) :
    Edits [.library, .stop, .visits, .caret, .returns, .mask, .loop] player (player.play script label).2 := by
  have entered : Edits [.library, .stop, .visits, .caret, .returns, .mask, .loop] player _ := (entry_edits player script label).wider rfl
  unfold play
  split
  · next found => rw [found] at entered; exact entered
  · next loaded index _ found =>
      rw [found] at entered
      have moved := ((entered.and (stop_edit _) rfl).and (clear_visits_edit _ loaded) rfl).and (.caret _ loaded index false) rfl
      exact ((moved.and (.returns _ []) rfl).and (.mask _ false) rfl).and (.start _) rfl

theorem place_edits (spot : Spot) : Edits [.library] player (player.place spot).2 := by
  unfold place
  split
  · exact .refl
  · exact (Edit.library player _).edits rfl

theorem adopt_cases (save : Save) : ∃ told, Edits [.returns, .mask, .mode] player told ∧ told.playback.mode.skip = false ∧
    ((save.spot ≠ none ∧ player.adopt save = told.start) ∨ (player.adopt save).2 = told) := by
  have forgotten : Edits [.returns, .mask, .mode] player
      { player with playback := { player.playback with returns := save.returns, masked := false } } :=
    .and ((Edit.returns player save.returns).edits rfl) (.mask _ false) rfl
  have mode := Mode.set_waiting_skip player.playback.mode.disableSkip.2 save.waiting
  have adopted := forgotten.and (.mode _ _ (player.playback.mode.adopt_honest save.waiting) mode.2 fun skips => by
    cases mode.1.symm.trans skips) rfl
  refine ⟨_, adopted.and (.tell _ .stateChanged rfl) rfl, ?_, ?_⟩
  · simp only [tell, with_mode_playback]
    exact mode.1
  · unfold adopt
    simp only
    split
    · next both =>
        refine .inl ⟨fun nowhere => ?_, rfl⟩
        simp [nowhere] at both
    · exact .inr rfl

theorem adopt_edits (save : Save) : Edits [.returns, .mask, .mode, .loop] player (player.adopt save).2 := by
  obtain ⟨told, edits, _, ⟨_, started⟩ | same⟩ := adopt_cases player save
  · exact started ▸ .and (edits.wider rfl) (.start told) rfl
  · exact same ▸ edits.wider rfl

theorem restore_edits (save : Save) : Edits save.facets player (player.restore save).2 := by
  cases somewhere : save.spot with
  | none =>
      rw [restore, Save.facets, somewhere]
      exact .and_then ((Edit.playback player).edits rfl) (adopt_edits _ save) rfl
  | some spot =>
      have found : Edits [.library, .visits, .caret, .returns, .mask, .mode, .loop] player _ := (place_edits player spot).wider rfl
      simp only [restore, Save.facets, somewhere, Option.elim]
      split
      · next failed => rw [failed] at found; exact found
      · next loaded index _ there =>
          rw [there] at found
          exact ((found.and (clear_visits_edit _ loaded) rfl).and (.caret _ loaded index save.executed) rfl).and_then
            (adopt_edits _ save) rfl

theorem clear_edit : Edit .everything player player.clear := by
  obtain ⟨raised, cleared⟩ := clear_all_visits { player with playback := player.playback.clear } player.library.scripts
  unfold clear
  rw [cleared]
  exact .everything player raised

theorem give_up_edits (replacement : Replacement) : Edits [.stop, .layer] player (player.giveUp replacement).2 :=
  .and (player.stop_edit.edits rfl) (.abandon _) rfl

/-! ### Rendezvous -/

-- What a rendezvous is about: whoever is parked for it is so for its whole time.
def meeting (parked : Option Nat) : List Facet := .rendezvous :: parked.toList.map fun _ => .parking

theorem enter_rendezvous_edits (callback : Option String) (parked : Option Nat) :
    Edits (meeting parked) player (player.enterRendezvous callback parked).2 := by
  have entered : Edits [.rendezvous] player (if (player.rendezvous.enter callback).1 = .leader then
      { player with rendezvous := (player.rendezvous.enter callback).2 }.tell .completing
      else { player with rendezvous := (player.rendezvous.enter callback).2 }) := by
    split
    · exact .and ((Edit.enter player callback).edits rfl) (.tell _ _ rfl) rfl
    · exact (Edit.enter player callback).edits rfl
  cases parked with
  | none => exact entered
  | some id => exact .and (entered.wider rfl) (.parking _ _) rfl

theorem unpark_edits (parked : Option Nat) : Edits (meeting parked) player (player.unpark parked) := by
  cases parked with
  | none => exact .refl
  | some id => exact (Edit.parking player _).edits rfl

theorem leave_rendezvous_cases (role : Role) (parked : Option Nat) (left : Player)
    (leaves : player.leaveRendezvous? role parked = some left) :
    (role = .leader ∧ player.executing.drained none = true ∧ ∃ stage,
        left = ((({ player with stage := stage, rendezvous := player.rendezvous.conclude.2 } : Player).tell
          .rendezvousEnded).unpark parked).publish .completed) ∨
      ∃ generation, role = .follower generation ∧ player.rendezvous.generation ≠ generation ∧ left = player.unpark parked := by
  cases role with
  | leader =>
      obtain ⟨stage, noted⟩ := player.notes_aside player.rendezvous.conclude.1
      simp only [leaveRendezvous?, noted] at leaves
      split at leaves
      · next drained => exact .inl ⟨rfl, drained, stage, (Option.some.inj leaves).symm⟩
      · cases leaves
  | follower generation =>
      simp only [leaveRendezvous?] at leaves
      split at leaves
      · cases leaves
      · next ended => exact .inr ⟨generation, rfl, ended, (Option.some.inj leaves).symm⟩

theorem leave_rendezvous_edits (role : Role) (parked : Option Nat) (left : Player)
    (leaves : player.leaveRendezvous? role parked = some left) : Edits (meeting parked) player left := by
  rcases player.leave_rendezvous_cases role parked left leaves with ⟨_, _, stage, rfl⟩ | ⟨_, _, _, rfl⟩
  · have shown : Edits (meeting parked) player { player with stage := stage } := (Edit.aside player _ stage _ _).edits rfl
    have ended := (shown.and (.conclude _) rfl).and (.tell _ .rendezvousEnded rfl) rfl
    exact (ended.trans (unpark_edits _ parked)).and (.publish _ .completed rfl) rfl
  · exact unpark_edits player parked

/-! ### Commands in flight -/

theorem finish_edits (execution : Execution) (result : Except Error Unit) :
    Edits [.ending] player (player.finish execution result).2 := by
  have announced : Edits [.ending] player (({ player with
      executing := player.executing.unregister execution.id }.tell .executingChanged).publish
      (.commandExecuted execution.command.spot execution.command.name execution.lane)) := (Edit.ending player execution).edits rfl
  unfold finish
  split
  · exact announced
  · simp only
    split
    · exact announced
    · split <;> exact announced.and (.aside _ _ _ _ _) rfl

theorem schedule_edits (body : Playlist) (millis : UInt64) :
    Edits [.library, .playlists] player (player.schedule body millis) := by
  unfold schedule
  by_cases now : millis = 0
  · simp only [now, if_true]
    refine .and ((Edit.library player _).edits rfl) (.playlist _ _ rfl rfl rfl fun run plays => ?_) rfl
    exact Option.some.inj plays ▸ Nat.le_refl _
  · simp only [now, if_false]
    refine .and ((Edit.library player _).edits rfl) (.playlist _ _ rfl rfl rfl fun run plays => ?_) rfl
    exact Option.some.inj plays ▸ Nat.le_refl _

theorem settle_edits (generation epoch : Nat) (passed : Bool) :
    Edits [.mark] player (player.settle generation epoch passed).2 := by
  unfold settle
  split
  · exact (Edit.mark player passed).edits rfl
  · exact .refl

theorem restored_edits (trip : Trip) : Edits [.mode] player (if trip.wasSkipping then player else player.disableSkip) := by
  split
  · exact .refl
  · exact player.disable_skip_edit.edits rfl

theorem disembark_edits (trip : Trip) (outcome : Except Error Bool) :
    Edits [.mode, .loop] player (player.disembark trip outcome).2 := by
  have restored : Edits [.mode, .loop] player _ := (restored_edits player trip).wider rfl
  unfold disembark
  generalize (if trip.wasSkipping = true then player else player.disableSkip) = restored at restored
  simp only
  split
  · exact restored
  · split
    · have started := restored.and (.start _) rfl
      split
      · next found => rw [found] at started; exact started
      · next found => rw [found] at started; exact started
    · exact restored

end Operations

end Player

end Storyline
