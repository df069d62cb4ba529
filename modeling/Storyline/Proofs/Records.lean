import Storyline.Proofs.Ledger

set_option autoImplicit false

/-!
What is written down to roll back to. Before a command of the main lane is started, the variables and the calls that have not
returned are written down. Nothing else adds to the records, so each of them tells what was there before some start. The last
start is the one that the input wait permits to roll back to, until everything in flight is given up.
-/

namespace Storyline

namespace Player

-- What is written down before the command at the spot is run.
def record (player : Player) (spot : Spot) : Snapshot where
  spot := spot
  player := { playing := true, returns := player.playback.returns, spot := some spot }
  store := player.store

def mainSpot? (started : Spot × Lane) : Option Spot := if started.2 = .main then some started.1 else none

-- Commands of the main lane that were started, newest first.
def starts (player : Player) : List Spot := player.launches.filterMap mainSpot?

theorem starts_of_launches {before after : Player} (same : after.launches = before.launches) :
    after.starts = before.starts := by
  rw [starts, same, starts]

theorem starts_of_main {before after : Player} (spot : Spot) (started : after.launches = (spot, .main) :: before.launches) :
    after.starts = spot :: before.starts := by
  rw [starts, started, List.filterMap_cons_some (b := spot) (by rfl), starts]

theorem starts_of_transient {before after : Player} (spot : Spot)
    (started : after.launches = (spot, .transient) :: before.launches) : after.starts = before.starts := by
  rw [starts, started, List.filterMap_cons_none (by rfl), starts]

end Player

/-! ### Records of a move -/

inductive Records (before after : Player) : Prop where
  | nothing (launches : after.launches = before.launches) (latest : after.latest? = before.latest?)
      (recalls : after.memories ⊆ before.memories)
  | captures (spot : Spot) (launches : after.launches = (spot, .main) :: before.launches) (latest : after.latest? = some spot)
      (recalls : ∀ memory ∈ after.memories, memory = before.record spot ∨ memory ∈ before.memories)

namespace Records

variable {reach : Reach} {before between after : Player}

theorem of_spares (spares : Spares {} before after) : Records before after :=
  .nothing (spares.journal rfl).1 (spares.latest rfl rfl) (spares.recalls rfl)

theorem then_spares (records : Records before between) (spares : Spares {} between after) : Records before after := by
  have launches := (spares.journal rfl).1
  have latest := spares.latest rfl rfl
  have recalls := spares.recalls rfl
  cases records with
  | nothing same kept fewer => exact .nothing (launches.trans same) (latest.trans kept) fun _ member => fewer (recalls member)
  | captures spot started newest fewer =>
      exact .captures spot (launches.trans started) (latest.trans newest) fun memory member => fewer memory (recalls member)

theorem then_tell (records : Records before between) (notice : Notice) : Records before (between.tell notice) := by
  cases records with
  | nothing same kept fewer => exact .nothing same kept fewer
  | captures spot started newest fewer => exact .captures spot started newest fewer

theorem after_spares (spares : Spares {} before between) (same : ∀ spot, between.record spot = before.record spot)
    (records : Records between after) : Records before after := by
  have launches := (spares.journal rfl).1
  have latest := spares.latest rfl rfl
  have recalls := spares.recalls rfl
  cases records with
  | nothing stays kept fewer => exact .nothing (stays.trans launches) (kept.trans latest) fun _ member => recalls (fewer member)
  | captures spot started newest fewer =>
      refine .captures spot (launches ▸ started) newest fun memory member => ?_
      rw [← same spot]
      exact (fewer memory member).imp_right fun old => recalls old

end Records

namespace Player

section Visits

variable (player : Player)

theorem capture_records (spot : Spot) :
    (player.capture spot).latest? = some spot ∧
      ∀ memory ∈ (player.capture spot).memories, memory = player.record spot ∨ memory ∈ player.memories := by
  rw [capture]
  by_cases every : player.rollbackConfig.captureEveryCommand = true
  · rw [if_pos every]
    constructor
    · simp only [latest?, every, History.push, List.getLast?_concat, Option.map_some]
    · intro memory member
      simp only [memories, List.map_append, List.mem_append] at member ⊢
      rcases member with kept | pushed
      · exact .inr (.inl kept)
      · exact (push_memories player.history _ memory pushed).imp_right .inr
  · rw [if_neg every]
    constructor
    · simp only [latest?, Bool.eq_false_iff.mpr every]
    · intro memory member
      simp only [memories, Option.toList_some, List.map_append, List.map_cons, List.map_nil, List.mem_append,
        List.mem_singleton] at member ⊢
      exact member.imp_right .inr

theorem warn_failures_record (failures : List ExprError) (spot : Spot) :
    (player.warnFailures failures).record spot = player.record spot := by
  rw [warnFailures]
  induction failures.reverse generalizing player with
  | nil => rfl
  | cons failure rest ih => exact ih _

theorem guard_record (command : Command) (spot : Spot) : (player.passesGuard command).2.record spot = player.record spot := by
  rw [passesGuard]
  split
  · rfl
  · split
    · rfl
    · exact warn_failures_record player _ spot

theorem launch_records (loaded : Loaded) (index : Nat) (command : Command) :
    Records player ((player.capture command.spot).launch loaded index command .main).2 := by
  obtain ⟨latest, recalls⟩ := capture_records player command.spot
  have same : (player.capture command.spot).launches = player.launches := ((Edit.capture player command.spot).spares.journal rfl).1
  refine .captures command.spot ?_ latest recalls
  rw [← same]
  rfl

theorem run_command_records (generation : Nat) (loaded : Loaded) (command : Command) :
    Records player (player.runCommand generation loaded command).2 := by
  have judged : Spares {} player (player.passesGuard command).2 := (guard_edits player command).spares rfl
  have visited : Spares {} player { (player.passesGuard command).2 with
      played := (player.passesGuard command).2.played.add loaded.playlist.script player.playback.index } :=
    judged.trans (.beside rfl)
  have same (spot : Spot) := guard_record player command spot
  rw [runCommand]
  simp only
  split
  · have launched := Records.after_spares visited same (launch_records _ loaded player.playback.index command)
    split
    · exact launched
    · exact (launched.then_tell _).then_spares ((settle_edits _ _ _ _).spares rfl)
  · exact .of_spares (visited.trans ((settle_edits _ _ _ _).spares rfl))

theorem visit_records (generation : Nat) : Records player (player.visit generation).2 := by
  have nothing : Records player player := .of_spares (.refl _)
  rw [visit]
  split
  · exact nothing
  · split
    · exact nothing
    · split
      · exact nothing
      · split
        · exact nothing
        · exact run_command_records player _ _ _

theorem steer_loop_records (generation : Nat) : Records player (player.steerLoop generation).2 := by
  rw [steerLoop]
  split
  · split
    · exact .of_spares (.refl _)
    · rw [after_visit_player]
      exact visit_records player generation
  · exact .of_spares (.refl _)

theorem steer_trip_records (trip : Trip) : Records player (player.steerTrip trip).2 := by
  have warned (text : String) (outcome : Except Error Bool) :
      Spares {} player ((player.warn text).disembark trip outcome).2 := by
    have logged : Spares {} player (player.warn text) := .beside rfl
    exact logged.trans ((disembark_edits _ trip outcome).spares rfl)
  rw [steerTrip]
  split
  · exact .of_spares (warned _ _)
  · split
    · exact .of_spares ((disembark_edits player trip _).spares rfl)
    · split
      · exact .of_spares (warned _ _)
      · rw [after_visit_player]
        refine .after_spares (with_mode_spares player _) (fun spot => ?_) (visit_records _ trip.generation)
        obtain ⟨⟨skip, autoPlay, waiting⟩, mode⟩ := player.playback.mode.forceSkip
        cases skip <;> cases autoPlay <;> cases waiting <;> rfl

theorem step_run_starts (run : Run) : (player.stepRun run).2.starts = player.starts := by
  rw [stepRun]
  split
  · rfl
  · next command _ =>
      split
      · rfl
      · have judged : Spares {} player (player.passesGuard command).2 := (guard_edits player command).spares rfl
        split
        · next found =>
            rw [found] at judged
            exact starts_of_launches (((continue_run_edits _ run false).spared.journal rfl).1.trans (judged.journal rfl).1)
        · next between found =>
            rw [found] at judged
            have before := starts_of_launches (judged.journal rfl).1
            simp only
            split
            · exact (starts_of_transient command.spot rfl).trans before
            · refine (starts_of_launches ((continue_run_edits _ run true).spared.journal rfl).1).trans ?_
              exact (starts_of_transient command.spot rfl).trans before

end Visits

end Player

/-! ### Which start the input wait permits -/

-- The last start is the latest record before a move and after it, or becomes it; or everything in flight is given up, or
-- nothing was in flight.
inductive Marks (before after : Player) : Prop where
  | same (latest : after.latest? = before.latest?) (starts : after.starts = before.starts)
  | captures (latest : after.latest? = after.starts.head?)
  | abandons (quiet : after.launches = before.launches) (grown : before.abandoned < after.abandoned)
  | drains (quiet : after.launches = before.launches) (drained : before.executing.drained none = true)

namespace Marks

theorem of_spares {reach : Reach} {before after : Player} (spares : Spares reach before after) (still : reach.captures = false)
    (keeps : reach.forgets = false) (launches : after.launches = before.launches) : Marks before after :=
  .same (spares.latest still keeps) (Player.starts_of_launches launches)

theorem of_records {before after : Player} (records : Records before after) : Marks before after := by
  cases records with
  | nothing launches latest _ => exact .same latest (Player.starts_of_launches launches)
  | captures spot started newest _ =>
      refine .captures ?_
      rw [newest, Player.starts_of_main spot started]
      rfl

end Marks

namespace Player

section Rewinds

variable (player : Player)

theorem give_up_abandons (replacement : Replacement) : (player.giveUp replacement).2.abandoned = player.abandoned + 1 := by
  have stopped : player.stop.abandoned = player.abandoned := by
    rw [stop, stopFor]
    split <;> rfl
  exact congrArg (· + 1) stopped

theorem roll_back_gives_up (snapshot : Snapshot) :
    (player.rollBack snapshot).2.launches = player.launches ∧ player.abandoned < (player.rollBack snapshot).2.abandoned := by
  have restored : Spares {} { player with history := player.history.restore snapshot, store := snapshot.store }
      (player.rollBack snapshot).2 := (give_up_edits _ _).spares rfl
  refine ⟨(restored.journal rfl).1, ?_⟩
  rw [rollBack, give_up_abandons]
  exact Nat.lt_succ_self _

theorem roll_back_to_marks (spot : Spot) : Marks player (player.rollBackTo spot).2 := by
  rw [rollBackTo]
  split
  · next snapshot _ => exact .abandons (roll_back_gives_up player snapshot).1 (roll_back_gives_up player snapshot).2
  · split
    · next snapshot _ =>
        obtain ⟨quiet, grown⟩ := roll_back_gives_up
          (player.warn "Rewind target not recorded; using nearest earlier snapshot") snapshot
        exact .abandons quiet grown
    · exact .same rfl rfl

theorem rewind_to_index_marks (playlist : Playlist) (target : Nat) : Marks player (player.rewindToIndex playlist target).2 := by
  rw [rewindToIndex]
  split
  · have travels : Spares { meets := true } player (player.travel playlist.script target).2 :=
      ((Edit.stop player .requested (by decide)).spares.wider rfl).trans ((complete_edits _ _ _).spares rfl)
    exact .of_spares travels rfl rfl (travels.journal rfl).1
  · split
    · exact .same rfl rfl
    · exact roll_back_to_marks player _

theorem ask_marks (request : Request) : Marks player (player.ask request).2 := by
  have spares := ask_spares player request
  cases request with
  | rewindLine line =>
      simp only [ask, rewindToLine]
      split
      · exact .same rfl rfl
      · split
        · exact .same rfl rfl
        · exact rewind_to_index_marks player _ _
  | rewindSpot spot =>
      simp only [ask, rewindToSpot]
      split
      · exact roll_back_to_marks player spot
      · split
        · exact .same rfl rfl
        · exact rewind_to_index_marks player _ _
  | _ => exact .of_spares spares rfl rfl (spares.journal rfl).1

end Rewinds

end Player

theorem step_marks (activity : Activity) (player : Player) (moved : Activity × Player)
    (step : activity.step? player = some moved) : Marks player moved.2 := by
  have spares := activity.step_spares player moved step
  have within := activity.step_within player moved step
  cases activity with
  | asked request => exact Option.some.inj step ▸ player.ask_marks request
  | steering pilot =>
      cases pilot with
      | loop generation => exact Option.some.inj step ▸ .of_records (player.steer_loop_records generation)
      | trip trip => exact Option.some.inj step ▸ .of_records (player.steer_trip_records trip)
  | running execution caller =>
      refine .of_spares spares (by cases caller <;> rfl) (by cases caller <;> rfl) (within.launches ?_)
      cases caller with
      | pilot pilot epoch => rfl
      | _ =>
          simp only [Activity.footprint, Execution.footprint]
          cases execution.next? with
          | none => rfl
          | some effect => cases effect <;> rfl
  | transient run =>
      refine .same (spares.latest rfl rfl) ?_
      rw [← Option.some.inj step]
      exact player.step_run_starts run
  | draining replacement =>
      refine .drains (within.launches rfl) ?_
      simp only [Activity.step?] at step
      split at step
      · next drained => exact drained
      · cases step
  | _ => exact .of_spares spares rfl rfl (within.launches rfl)

theorem step_recalls (activity : Activity) (player : Player) (moved : Activity × Player)
    (step : activity.step? player = some moved) (memory : Snapshot) (member : memory ∈ moved.2.memories) :
    memory ∈ player.memories ∨
      ∃ spot, moved.2.launches = (spot, .main) :: player.launches ∧ memory = player.record spot := by
  have spares := activity.step_spares player moved step
  have recorded (records : Records player moved.2) : memory ∈ player.memories ∨
      ∃ spot, moved.2.launches = (spot, .main) :: player.launches ∧ memory = player.record spot := by
    cases records with
    | nothing _ _ fewer => exact .inl (fewer member)
    | captures spot started _ fewer => exact (fewer memory member).symm.imp_right fun new => ⟨spot, started, new⟩
  cases activity with
  | steering pilot =>
      cases pilot with
      | loop generation => exact recorded (Option.some.inj step ▸ player.steer_loop_records generation)
      | trip trip => exact recorded (Option.some.inj step ▸ player.steer_trip_records trip)
  | asked request => exact .inl (spares.recalls (by cases request <;> rfl) member)
  | running execution caller => exact .inl (spares.recalls (by cases caller <;> rfl) member)
  | _ => exact .inl (spares.recalls rfl member)

/-! ### Where a record comes from -/

namespace World

-- The move starts the command at the spot, in the main lane.
def Starts (world : World) (move : Move) (spot : Spot) : Prop :=
  (world.move move).player.launches = (spot, .main) :: world.player.launches

theorem move_recalls (world : World) (numbered : world.Numbered) (move : Move) (memory : Snapshot)
    (member : memory ∈ (world.move move).player.memories) :
    memory ∈ world.player.memories ∨ ∃ spot, world.Starts move spot ∧ memory = world.player.record spot := by
  cases (move_comes world numbered move).1 with
  | stays clock requests player activities =>
      rw [player] at member
      exact .inl member
  | moves activity successor others player stage _ there _ step told activities =>
      rw [told] at member
      simp only [Starts, told]
      exact step_recalls activity world.player _ step memory member

theorem recalls_start (start : World) (numbered : start.Numbered) (blank : start.player.memories = []) (moves : List Move)
    (memory : Snapshot) (member : memory ∈ (start.after moves).player.memories) :
    ∃ earlier move later spot, moves = earlier ++ move :: later ∧ (start.after earlier).Starts move spot ∧
      memory = (start.after earlier).player.record spot := by
  induction moves using List.reverseRecOn with
  | nil =>
      rw [after_nil, blank] at member
      cases member
  | append_singleton moves move ih =>
      rw [after_append] at member
      rcases move_recalls (start.after moves) (after_numbered start numbered moves) move memory member with old | ⟨spot, new⟩
      · obtain ⟨earlier, first, later, spot, split, rest⟩ := ih old
        refine ⟨earlier, first, later ++ [move], spot, ?_, rest⟩
        rw [split, List.append_assoc, List.cons_append]
      · exact ⟨moves, move, [], spot, rfl, new⟩

end World

end Storyline
