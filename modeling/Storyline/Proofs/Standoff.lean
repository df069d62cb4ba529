import Storyline.Proofs.Performance
import Storyline.Proofs.Pilots
import Storyline.Proofs.Reach
import Storyline.Proofs.Skipping

set_option autoImplicit false

/-!
Barriers that wait for one another. A barrier waits until every other command in flight is finished or parked, and is not
parked itself. So one barrier passes when it is alone; but two of them hold each other up, and nothing that goes on beside
them helps: only an interrupt does.
-/

namespace Storyline

namespace Executing

/-! ### The executing set -/

-- The commands that hold a drain up.
def unparked (executing : Executing) : List Nat :=
  (executing.entries.map Entry.id).filter fun id => !executing.parked.contains id

theorem mem_unparked (executing : Executing) (id : Nat) :
    id ∈ executing.unparked ↔ id ∈ executing.entries.map Entry.id ∧ id ∉ executing.parked := by
  simp [unparked]

theorem drained_but_iff (executing : Executing) (id : Nat) :
    executing.drained (some id) = true ↔ ∀ other ∈ executing.unparked, other = id := by
  simp only [drained, List.all_eq_true, Bool.or_eq_true, decide_eq_true_eq, Option.some.injEq, List.contains_iff_mem]
  constructor
  · intro drained other member
    obtain ⟨listed, unparked⟩ := (mem_unparked executing other).mp member
    obtain ⟨entry, there, rfl⟩ := List.mem_map.mp listed
    exact ((drained entry there).resolve_right unparked).symm
  · intro alone entry there
    by_cases parked : entry.id ∈ executing.parked
    · exact .inr parked
    · exact .inl (alone entry.id ((mem_unparked executing _).mpr ⟨List.mem_map_of_mem there, parked⟩)).symm

structure Tidy (executing : Executing) : Prop where
  distinct : (executing.entries.map Entry.id).Nodup
  below : ∀ id ∈ executing.entries.map Entry.id, id < executing.nextId

-- A barrier passes exactly when it is the only one that holds a drain up.
theorem drained_iff_alone (executing : Executing) (tidy : executing.Tidy) :
    (∃ id ∈ executing.unparked, executing.drained (some id) = true) ↔ executing.unparked.length = 1 := by
  have distinct : executing.unparked.Nodup := tidy.distinct.filter _
  rw [List.length_eq_one_iff]
  constructor
  · rintro ⟨id, member, drained⟩
    have alone := (drained_but_iff executing id).mp drained
    refine ⟨id, ?_⟩
    cases found : executing.unparked with
    | nil =>
        rw [found] at member
        cases member
    | cons first rest =>
        rw [found] at alone distinct
        obtain rfl := alone first List.mem_cons_self
        have none_left : rest = [] := List.eq_nil_iff_forall_not_mem.mpr fun other there =>
          (List.nodup_cons.mp distinct).1 (alone other (List.mem_cons_of_mem _ there) ▸ there)
        rw [none_left]
  · rintro ⟨id, only⟩
    refine ⟨id, only ▸ List.mem_singleton_self id, (drained_but_iff executing id).mpr fun other member => ?_⟩
    exact List.mem_singleton.mp (only ▸ member)

-- Nothing happens to the commands in flight, but for one of them.
structure Besides (id : Nat) (before after : Executing) : Prop where
  nextId : after.nextId = before.nextId
  fewer : after.entries.Sublist before.entries
  kept : ∀ entry ∈ before.entries, entry.id ≠ id → entry ∈ after.entries
  parked : ∀ other, other ≠ id → (other ∈ after.parked ↔ other ∈ before.parked)

namespace Besides

variable {id : Nat} {before between after : Executing}

theorem same (equal : after = before) : Besides id before after := by
  subst equal
  exact ⟨rfl, .refl _, fun _ member _ => member, fun _ _ => .rfl⟩

theorem trans (first : Besides id before between) (second : Besides id between after) : Besides id before after where
  nextId := second.nextId.trans first.nextId
  fewer := second.fewer.trans first.fewer
  kept entry member other := second.kept entry (first.kept entry member other) other
  parked other different := (second.parked other different).trans (first.parked other different)

theorem tidy (besides : Besides id before after) (tidy : before.Tidy) : after.Tidy := by
  refine ⟨tidy.distinct.sublist (besides.fewer.map _), fun other member => ?_⟩
  rw [besides.nextId]
  exact tidy.below other ((besides.fewer.map _).mem member)

theorem mem_unparked (besides : Besides id before after) (other : Nat) (different : other ≠ id)
    (member : other ∈ before.unparked) : other ∈ after.unparked := by
  obtain ⟨listed, unparked⟩ := (before.mem_unparked other).mp member
  obtain ⟨entry, there, rfl⟩ := List.mem_map.mp listed
  refine (after.mem_unparked _).mpr ⟨List.mem_map_of_mem (besides.kept entry there different), fun parked => ?_⟩
  exact unparked ((besides.parked _ different).mp parked)

end Besides

theorem park_besides (executing : Executing) (id : Nat) : Besides id executing (executing.park id) := by
  unfold park
  split
  · exact ⟨rfl, .refl _, fun _ member _ => member, fun other different => by simp [different]⟩
  · exact .same rfl

theorem unpark_besides (executing : Executing) (id : Nat) : Besides id executing (executing.unpark id) :=
  ⟨rfl, .refl _, fun _ member _ => member, fun other different => by simp [unpark, different]⟩

theorem unregister_besides (executing : Executing) (id : Nat) : Besides id executing (executing.unregister id) := by
  refine ⟨rfl, List.filter_sublist, fun entry member different => ?_, fun other different => ?_⟩
  · exact List.mem_filter.mpr ⟨member, by simpa using different⟩
  · simp [unregister, different]

theorem register_tidy (executing : Executing) (tidy : executing.Tidy) (spot : Spot) (lane : Lane) :
    (executing.register spot lane).2.Tidy := by
  simp only [register]
  constructor
  · rw [List.map_append, List.nodup_append]
    refine ⟨tidy.distinct, by simp, ?_⟩
    rintro id member _ (_ | ⟨_, ⟨⟩⟩) rfl
    exact Nat.lt_irrefl _ (tidy.below _ member)
  · intro id member
    rcases List.mem_append.mp (List.map_append ▸ member) with old | new
    · exact Nat.lt_succ_of_lt (tidy.below id old)
    · obtain rfl : id = executing.nextId := by simpa using new
      exact Nat.lt_succ_self _

theorem register_unparked (executing : Executing) (spot : Spot) (lane : Lane) (id : Nat) (member : id ∈ executing.unparked) :
    id ∈ (executing.register spot lane).2.unparked := by
  obtain ⟨listed, unparked⟩ := (executing.mem_unparked id).mp member
  refine (mem_unparked _ id).mpr ⟨?_, unparked⟩
  simp only [register, List.map_append]
  exact List.mem_append_left _ listed

end Executing

/-! ### What a move starts and ends -/

def Player.Visit.execution? : Player.Visit → Option Execution
  | .running execution _ => some execution
  | _ => none

-- A command that was started just now: nothing has been raised since.
structure Execution.Launched (execution : Execution) (after : Player) : Prop where
  origin : execution.origin = execution
  full : execution.token.full ≤ after.abandoned
  completion : execution.token.completion ≤ after.rendezvous.generation

-- A move that may start a command, for whoever waits for it or for nobody.
inductive Traffic (before after : Player) (awaited : Option Execution) : Prop where
  | nothing (executing : after.executing = before.executing) (flights : after.flights = before.flights)
      (nobody : awaited = none) (journal : after.launches = before.launches ∧ after.endings = before.endings)
  | starts (spot : Spot) (lane : Lane) (execution : Execution)
      (executing : after.executing = (before.executing.register spot lane).2)
      (fresh : execution.id = before.executing.nextId)
      (started : awaited.toList ++ after.flights = execution :: before.flights)
      (own : execution.command.spot = spot ∧ execution.lane = lane)
      (journal : after.launches = (spot, lane) :: before.launches ∧ after.endings = before.endings)
      (new : execution.Launched after)

namespace Traffic

variable {reach : Reach} {before between after : Player} {awaited : Option Execution}

theorem of_spares (spares : Spares reach before after) (still : reach.executing = false) : Traffic before after none :=
  .nothing (spares.executing still).1 (spares.executing still).2 rfl (spares.journal still)

theorem after_spares (spares : Spares reach before between) (still : reach.executing = false)
    (traffic : Traffic between after awaited) : Traffic before after awaited := by
  obtain ⟨same, quiet⟩ := spares.executing still
  obtain ⟨launches, endings⟩ := spares.journal still
  cases traffic with
  | nothing executing flights nobody journal =>
      exact .nothing (executing.trans same) (flights.trans quiet) nobody ⟨journal.1.trans launches, journal.2.trans endings⟩
  | starts spot lane execution executing fresh started own journal new =>
      exact .starts spot lane execution (same ▸ executing) (same ▸ fresh) (quiet ▸ started) own
        ⟨launches ▸ journal.1, journal.2.trans endings⟩ new

theorem then_spares (traffic : Traffic before between awaited) (spares : Spares reach between after)
    (still : reach.executing = false) : Traffic before after awaited := by
  obtain ⟨same, quiet⟩ := spares.executing still
  obtain ⟨launches, endings⟩ := spares.journal still
  cases traffic with
  | nothing executing flights nobody journal =>
      exact .nothing (same.trans executing) (quiet.trans flights) nobody ⟨launches.trans journal.1, endings.trans journal.2⟩
  | starts spot lane execution executing fresh started own journal new =>
      exact .starts spot lane execution (same.trans executing) fresh (quiet.symm ▸ started) own
        ⟨launches.trans journal.1, endings.trans journal.2⟩
        ⟨new.origin, Nat.le_trans new.full spares.abandons, Nat.le_trans new.completion spares.ages⟩

end Traffic

namespace Player

section Starts

variable (player : Player)

theorem launch_traffic (loaded : Loaded) (index : Nat) (command : Command) (lane : Lane) :
    Traffic player (player.launch loaded index command lane).2 (some (player.launch loaded index command lane).1) :=
  .starts command.spot lane _ rfl rfl rfl ⟨rfl, rfl⟩ ⟨rfl, rfl⟩ ⟨rfl, Nat.le_refl _, Nat.le_refl _⟩

theorem detach_traffic (loaded : Loaded) (index : Nat) (command : Command) (lane : Lane) :
    Traffic player ((player.launch loaded index command lane).2.tell
      (.spawned (.running (player.launch loaded index command lane).1 .nobody))) none :=
  .starts command.spot lane _ rfl rfl rfl ⟨rfl, rfl⟩ ⟨rfl, rfl⟩ ⟨rfl, Nat.le_refl _, Nat.le_refl _⟩

theorem settle_idle (generation epoch : Nat) (passed : Bool) :
    (player.settle generation epoch passed).1.execution? = none := by
  unfold settle
  split <;> rfl

theorem run_command_traffic (generation : Nat) (loaded : Loaded) (command : Command) :
    Traffic player (player.runCommand generation loaded command).2
      (player.runCommand generation loaded command).1.execution? := by
  have judged : Spares { captures := true } player (player.passesGuard command).2 := (guard_edits player command).spares rfl
  have visited : Spares { captures := true } player { (player.passesGuard command).2 with
      played := (player.passesGuard command).2.played.add loaded.playlist.script player.playback.index } :=
    judged.trans (.beside rfl)
  unfold runCommand
  simp only
  split
  · have captured := visited.trans ((Edit.capture _ command.spot).spares.wider rfl)
    split
    · exact .after_spares captured rfl (launch_traffic _ _ _ _ _)
    · rw [settle_idle]
      exact .then_spares (.after_spares captured rfl (detach_traffic _ _ _ _ _))
        ((settle_edits _ _ _ _).spares rfl : Spares {} _ _) rfl
  · rw [settle_idle]
    exact .of_spares (visited.trans ((settle_edits _ _ _ _).spares rfl)) rfl

theorem visit_traffic (generation : Nat) :
    Traffic player (player.visit generation).2 (player.visit generation).1.execution? := by
  have nothing : Traffic player player none := .nothing rfl rfl rfl ⟨rfl, rfl⟩
  unfold visit
  split
  · exact nothing
  · split
    · exact nothing
    · split
      · exact nothing
      · split
        · exact nothing
        · exact run_command_traffic _ _ _ _

theorem after_visit_execution (pilot : Pilot) (visited : Visit × Player) :
    (afterVisit pilot visited).1.execution? = visited.1.execution? := by
  obtain ⟨visit, after⟩ := visited
  cases visit <;> rfl

theorem disembark_idle (trip : Trip) (outcome : Except Error Bool) :
    (player.disembark trip outcome).1.execution? = none := by
  obtain ⟨reply, finished⟩ := disembark_finished player trip outcome
  rw [finished]
  rfl

theorem steer_loop_traffic (generation : Nat) :
    Traffic player (player.steerLoop generation).2 (player.steerLoop generation).1.execution? := by
  unfold steerLoop
  split
  · split
    · exact .nothing rfl rfl rfl ⟨rfl, rfl⟩
    · rw [after_visit_player, after_visit_execution]
      exact visit_traffic player generation
  · exact .nothing rfl rfl rfl ⟨rfl, rfl⟩

theorem steer_trip_traffic (trip : Trip) : Traffic player (player.steerTrip trip).2 (player.steerTrip trip).1.execution? := by
  rcases player.steer_trip_cases trip with ⟨log, outcome, ends⟩ | visits
  · have aside : Spares {} player { player with log := log } := .beside rfl
    rw [ends, disembark_idle]
    exact .of_spares (aside.trans ((disembark_edits _ _ _).spares rfl)) rfl
  · rw [visits, after_visit_player, after_visit_execution]
    exact .after_spares (with_mode_spares player _ : Spares {} _ _) rfl (visit_traffic _ _)

theorem continue_run_idle (run : Run) (passed : Bool) : (player.continueRun run passed).1.execution? = none := by
  unfold continueRun
  split <;> rfl

theorem step_run_traffic (run : Run) : Traffic player (player.stepRun run).2 (player.stepRun run).1.execution? := by
  have nothing : Traffic player player none := .nothing rfl rfl rfl ⟨rfl, rfl⟩
  unfold stepRun
  split
  · exact .nothing rfl rfl rfl ⟨rfl, rfl⟩
  · next command _ =>
      split
      · exact nothing
      · have judged : Spares {} player (player.passesGuard command).2 := (guard_edits _ _).spares rfl
        split
        · next found =>
            rw [found] at judged
            rw [continue_run_idle]
            exact .then_spares (.of_spares judged rfl) ((continue_run_edits _ _ _).spared) rfl
        · next found =>
            rw [found] at judged
            simp only
            split
            · exact .after_spares judged rfl (launch_traffic _ _ _ _ _)
            · rw [continue_run_idle]
              exact .then_spares (.after_spares judged rfl (detach_traffic _ _ _ _ _)) ((continue_run_edits _ _ _).spared) rfl

/-! ### Commands that go on and end -/

theorem leave_rendezvous_unparks (role : Role) (id : Nat) (left : Player)
    (leaves : player.leaveRendezvous? role (some id) = some left) :
    left.executing = player.executing.unpark id ∧ left.flights = player.flights ∧ left.launches = player.launches ∧
      left.endings = player.endings := by
  rcases player.leave_rendezvous_cases role (some id) left leaves with ⟨_, _, _, rfl⟩ | ⟨_, _, _, rfl⟩
  · exact ⟨rfl, rfl, rfl, rfl⟩
  · exact ⟨rfl, rfl, rfl, rfl⟩

theorem finish_unregisters (execution : Execution) (result : Except Error Unit) :
    (player.finish execution result).2.executing = player.executing.unregister execution.id ∧
      (player.finish execution result).2.flights = player.flights ∧
      (player.finish execution result).2.launches = player.launches ∧
      (player.finish execution result).2.endings = (execution.command.spot, execution.lane) :: player.endings := by
  unfold finish
  split
  · exact ⟨rfl, rfl, rfl, rfl⟩
  · simp only
    split
    · exact ⟨rfl, rfl, rfl, rfl⟩
    · split <;> exact ⟨rfl, rfl, rfl, rfl⟩

theorem fail_idle (pilot : Pilot) (cause : Error) : (player.fail pilot cause).1.execution? = none := by
  cases pilot with
  | loop generation => rfl
  | trip trip => exact disembark_idle player trip _

theorem resume_caller_idle (caller : Caller) (result : Except Error Unit) :
    (player.resumeCaller caller result).1.execution? = none := by
  cases caller with
  | nobody => rfl
  | pilot pilot epoch =>
      cases result with
      | ok _ =>
          simp only [resumeCaller]
          rw [after_visit_execution, settle_idle]
      | error cause => exact fail_idle player pilot cause
  | run run =>
      cases result with
      | ok _ => exact continue_run_idle player run true
      | error cause => rfl

end Starts

end Player

namespace Execution

-- A command that goes on parks itself, is parked no longer, or does nothing to those in flight, and announces nothing.
def Minds (execution : Execution) (before after : Player) : Prop :=
  (after.executing = before.executing ∨ after.executing = before.executing.park execution.id ∨
      after.executing = before.executing.unpark execution.id) ∧
    after.flights = before.flights ∧ after.launches = before.launches ∧ after.endings = before.endings

theorem Minds.of_spares {execution : Execution} {reach : Reach} {before after : Player} (spares : Spares reach before after)
    (still : reach.executing = false) : execution.Minds before after :=
  ⟨.inl (spares.executing still).1, (spares.executing still).2, spares.journal still⟩

theorem perform_minds (execution : Execution) (effect : Effect) (player : Player) :
    execution.Minds player (execution.perform effect player).2 := by
  have spares := execution.perform_spares effect player
  cases effect with
  | completeOthers =>
      simp only [perform, await, Player.enterRendezvous]
      split
      · exact ⟨.inr (.inl rfl), rfl, rfl, rfl⟩
      · exact ⟨.inr (.inl rfl), rfl, rfl, rfl⟩
  | _ => exact .of_spares spares rfl

theorem step_minds (execution : Execution) (player : Player) (progress : Progress) (after : Player)
    (step : execution.step? player = some (progress, after)) : execution.Minds player after := by
  rcases step_opens execution player progress after step with
    ⟨wait, woken, _, wakes, moved⟩ | ⟨_, _, same, _⟩ | ⟨_, effect, rest, _, moved⟩
  · have same : woken.2 = after := by rw [← unless_failed_player, moved]
    have spares := execution.wake_spares wait player woken wakes
    rw [← same]
    cases wait with
    | rendezvous role =>
        obtain ⟨left, leaves, rfl⟩ := Option.map_eq_some_iff.mp wakes
        obtain ⟨executing, rest⟩ := player.leave_rendezvous_unparks role execution.id left leaves
        exact ⟨.inr (.inr executing), rest⟩
    | _ => exact .of_spares spares rfl
  · subst same
    exact ⟨.inl rfl, rfl, rfl, rfl⟩
  · have done := perform_minds { execution with effects := rest } effect player
    rw [moved] at done
    exact done

theorem step_besides (execution : Execution) (player : Player) (progress : Progress) (after : Player)
    (step : execution.step? player = some (progress, after)) :
    Executing.Besides execution.id player.executing after.executing ∧ after.flights = player.flights := by
  obtain ⟨same | parks | unparks, flights, _⟩ := execution.step_minds player progress after step
  · exact ⟨.same same, flights⟩
  · exact ⟨parks ▸ player.executing.park_besides execution.id, flights⟩
  · exact ⟨unparks ▸ player.executing.unpark_besides execution.id, flights⟩

end Execution

-- What the move of an activity does to the commands in flight: it may start one, or it is the move of one.
inductive Flies (activity : Activity) (player : Player) (moved : Activity × Player) : Prop where
  | starts (idle : activity.execution? = none) (traffic : Traffic player moved.2 moved.1.execution?)
  | goes (execution : Execution) (own : activity.execution? = some execution)
      (besides : Executing.Besides execution.id player.executing moved.2.executing)
      (flights : moved.2.flights = player.flights) (same : ∀ next, moved.1.execution? = some next → next.id = execution.id)

theorem step_flies {activity : Activity} {player : Player} {moved : Activity × Player}
    (step : activity.step? player = some moved) : Flies activity player moved := by
  have spares := activity.step_spares player moved step
  have idle (own : activity.execution? = none) (still : activity.reach.executing = false)
      (nobody : moved.1.execution? = none) : Flies activity player moved :=
    .starts own (nobody ▸ .of_spares spares still)
  have nobody := (activity.step_becomes player moved step).idle
  cases activity with
  | asked request => exact idle rfl (by cases request <;> rfl) (nobody rfl)
  | steering pilot =>
      cases pilot with
      | loop generation =>
          obtain rfl := Option.some.inj step
          exact .starts rfl (Player.steer_loop_traffic player generation)
      | trip trip =>
          obtain rfl := Option.some.inj step
          exact .starts rfl (Player.steer_trip_traffic player trip)
  | transient run =>
      obtain rfl := Option.some.inj step
      exact .starts rfl (Player.step_run_traffic player run)
  | running execution caller =>
      obtain ⟨⟨progress, between⟩, went, rest⟩ := Option.map_eq_some_iff.mp step
      obtain ⟨besides, flights⟩ := execution.step_besides player progress between went
      subst rest
      cases progress with
      | going next =>
          refine .goes execution rfl besides flights fun other found => ?_
          obtain rfl : next = other := Option.some.inj found
          exact (Execution.origin_same (execution.step_going next player between went).1).1
      | ended result =>
          obtain ⟨ended, quiet, _⟩ := between.finish_unregisters execution result
          have resumed := Player.resume_caller_spares (between.finish execution result).2 caller
            (between.finish execution result).1
          obtain ⟨stays, silent⟩ := resumed.executing (by cases caller <;> rfl)
          refine .goes execution rfl (besides.trans ?_) (silent.trans (quiet.trans flights)) fun other found => ?_
          · exact (stays.trans ended) ▸ between.executing.unregister_besides execution.id
          · have over_ := Player.resume_caller_idle (between.finish execution result).2 caller
              (between.finish execution result).1
            exact absurd (over_.symm.trans found) nofun
  | _ => exact idle rfl rfl (nobody rfl)

-- The same where no command was about to start before: which ones are there that the move has changed.
inductive Aloft (activity : Activity) (before after : Executing) (changed : List Execution) : Prop where
  | nothing (same : after = before) (none_there : changed = [])
  | starts (spot : Spot) (lane : Lane) (execution : Execution) (same : after = (before.register spot lane).2)
      (fresh : execution.id = before.nextId) (only : changed = [execution])
  | goes (execution : Execution) (next : Option Execution) (own : activity.execution? = some execution)
      (besides : Executing.Besides execution.id before after) (ids : ∀ other ∈ next, other.id = execution.id)
      (only : changed = next.toList)

theorem step_aloft {activity successor : Activity} {player after : Player} (told : player.outbox = [])
    (step : activity.step? player = some (successor, after)) :
    Aloft activity player.executing after.executing (successor.execution?.toList ++ after.flights) := by
  have silent : player.flights = [] := by
    rw [Player.flights, told]
    rfl
  cases step_flies step with
  | starts idle traffic =>
      cases traffic with
      | nothing same flights nobody _ =>
          refine .nothing same ?_
          rw [show successor.execution? = none from nobody, flights, silent]
          rfl
      | starts spot lane execution same fresh started =>
          rw [silent] at started
          exact .starts spot lane execution same fresh started
  | goes execution own besides flights same =>
      refine .goes execution successor.execution? own besides same ?_
      rw [show after.flights = [] from flights.trans silent, List.append_nil]

/-! ### Every command in flight once -/

def Activity.flies (activity : Activity) (id : Nat) : Bool := activity.execution?.any fun execution => execution.id = id

theorem flies_iff (activity : Activity) (id : Nat) :
    activity.flies id = true ↔ ∃ execution, activity.execution? = some execution ∧ execution.id = id := by
  simp [Activity.flies, Option.any_eq_true]

theorem mem_flights {player : Player} {activity : Activity} (spawned : activity ∈ player.spawns) {execution : Execution}
    (flies : activity.execution? = some execution) : execution ∈ player.flights := by
  obtain ⟨notice, told, same⟩ := List.mem_filterMap.mp spawned
  refine List.mem_filterMap.mpr ⟨notice, List.mem_reverse.mp told, ?_⟩
  simp [Notice.execution?, same, flies]

theorem count_flights (player : Player) (id : Nat) :
    player.spawns.countP (fun activity => activity.flies id) = player.flights.countP fun execution => execution.id = id := by
  rw [Player.spawns, List.filterMap_reverse, List.countP_reverse, Player.flights]
  induction player.outbox with
  | nil => rfl
  | cons notice notices ih =>
      cases spawned : notice.spawned? with
      | none => simpa [spawned, Notice.execution?] using ih
      | some activity =>
          cases flies : activity.execution? with
          | none => simpa [spawned, Notice.execution?, flies, Activity.flies] using ih
          | some execution =>
              have named : notice.execution? = some execution := by simp [Notice.execution?, spawned, flies]
              have counted : activity.flies id = decide (execution.id = id) := by simp [Activity.flies, flies]
              simp [spawned, named, List.countP_cons, ih, counted]

namespace World

variable (world : World)

structure InFlight (world : World) : Prop where
  tidy : world.player.executing.Tidy
  below : ∀ activity ∈ world.activities, ∀ execution, activity.execution? = some execution →
    execution.id < world.player.executing.nextId
  single : ∀ id, world.activities.countP (fun activity => activity.flies id) ≤ 1

section Moves

variable {world next : World} {activity successor : Activity} {others : List Activity} {player : Player}

theorem in_flight_of (executing : next.player.executing = player.executing)
    (activities : next.activities.Subperm (successor :: (others ++ player.spawns))) (tidy : player.executing.Tidy)
    (new : ∀ execution ∈ successor.execution?.toList ++ player.flights, execution.id < player.executing.nextId)
    (old : ∀ other ∈ others, ∀ execution, other.execution? = some execution → execution.id < player.executing.nextId)
    (single : ∀ id, others.countP (fun activity => activity.flies id) +
      (successor.execution?.toList ++ player.flights).countP (fun execution => execution.id = id) ≤ 1) : next.InFlight := by
  refine ⟨executing ▸ tidy, fun other member execution flies => ?_, fun id => ?_⟩
  · rw [executing]
    rcases List.mem_cons.mp (activities.subset member) with rfl | member
    · exact new execution (List.mem_append_left _ (by simp [flies]))
    · rcases List.mem_append.mp member with there | spawned
      · exact old other there execution flies
      · exact new execution (List.mem_append_right _ (mem_flights spawned flies))
  · have fewer := activities.countP_le fun activity => activity.flies id
    rw [List.countP_cons, List.countP_append, count_flights] at fewer
    have own : successor.execution?.toList.countP (fun execution => execution.id = id) =
        if successor.flies id = true then 1 else 0 := by
      cases flies : successor.execution? with
      | none => simp [Activity.flies, flies]
      | some execution => simp [Activity.flies, flies, List.countP_cons]
    have most := single id
    rw [List.countP_append, own] at most
    omega

theorem in_flight_moves (flight : world.InFlight) (told : world.player.outbox = [])
    (there : world.activities.Perm (activity :: others)) (step : activity.step? world.player = some (successor, player))
    (executing : next.player.executing = player.executing)
    (activities : next.activities.Subperm (successor :: (others ++ player.spawns))) : next.InFlight := by
  obtain ⟨tidy, below, single⟩ := flight
  have old (other : Activity) (member : other ∈ others) : other ∈ world.activities :=
    there.mem_iff.mpr (List.mem_cons_of_mem _ member)
  have most (id : Nat) : others.countP (fun activity => activity.flies id) + (if activity.flies id = true then 1 else 0) ≤ 1 := by
    have before := single id
    rw [there.countP_eq, List.countP_cons] at before
    exact before
  cases step_aloft told step with
  | nothing same none_there =>
      refine in_flight_of executing activities ?_ (fun new member => ?_) (fun other member new flies => ?_) fun id => ?_
      · rw [same]
        exact tidy
      · rw [none_there] at member
        cases member
      · rw [same]
        exact below other (old other member) new flies
      · rw [none_there, List.countP_nil]
        exact Nat.le_trans (Nat.le_add_right _ _) (most id)
  | starts spot lane execution same fresh only =>
      have grown : player.executing.nextId = world.player.executing.nextId + 1 := congrArg Executing.nextId same
      refine in_flight_of executing activities ?_ (fun new member => ?_) (fun other member new flies => ?_) fun id => ?_
      · rw [same]
        exact world.player.executing.register_tidy tidy spot lane
      · rw [only] at member
        obtain rfl := List.mem_singleton.mp member
        omega
      · have before := below other (old other member) new flies
        omega
      · rw [only, List.countP_singleton]
        by_cases own : execution.id = id
        · have nobody : others.countP (fun activity => activity.flies id) = 0 := by
            refine List.countP_eq_zero.mpr fun other member flies => ?_
            obtain ⟨earlier, found, same⟩ := (flies_iff other id).mp flies
            have before := below other (old other member) earlier found
            omega
          simp [nobody, own]
        · simpa [own] using Nat.le_trans (Nat.le_add_right _ _) (most id)
  | goes execution now own besides ids only =>
      have mine := below activity (there.mem_iff.mpr List.mem_cons_self) execution own
      refine in_flight_of executing activities (besides.tidy tidy) (fun new member => ?_)
        (fun other member => besides.nextId ▸ below other (old other member)) fun id => ?_
      · rw [only] at member
        rw [ids new (Option.mem_toList.mp member), besides.nextId]
        exact mine
      · have counted : activity.flies id = decide (execution.id = id) := by simp [Activity.flies, own]
        have before := most id
        rw [counted] at before
        rw [only]
        cases found : now with
        | none =>
            rw [Option.toList_none, List.countP_nil]
            omega
        | some new =>
            rw [Option.toList_some, List.countP_singleton, ids new found]
            exact before

theorem in_flight_stays (flight : world.InFlight) (clock : Nat) (requests : List Request)
    (told : next.player = { world.player with clock := clock })
    (activities : next.activities.Subperm (requests.map Activity.asked ++ world.activities)) : next.InFlight := by
  have executing : next.player.executing = world.player.executing := by rw [told]
  refine ⟨executing ▸ flight.tidy, fun other member execution flies => ?_, fun id => ?_⟩
  · rcases asked_or_before activities member with ⟨request, rfl⟩ | old
    · cases flies
    · exact executing ▸ flight.below other old execution flies
  · exact Nat.le_trans (count_stays activities _ fun _ => rfl) (flight.single id)

end Moves

theorem in_flight_after (numbered : world.Numbered) (flight : world.InFlight) (moves : List Move) :
    (world.after moves).InFlight := by
  induction moves generalizing world with
  | nil => exact flight
  | cons move moves ih =>
      obtain ⟨comes, kept⟩ := move_comes world numbered move
      refine ih _ kept ?_
      cases comes with
      | stays clock requests player activities => exact in_flight_stays flight clock requests player activities
      | moves activity successor others player stage _ there _ step told activities =>
          exact in_flight_moves flight numbered.told there step (by rw [told]) activities

theorem flies_once (flight : world.InFlight) (activity other : Activity) (member : activity ∈ world.activities)
    (also : other ∈ world.activities) (id : Nat) (flies : activity.flies id = true) (second : other.flies id = true) :
    activity = other := by
  have single := flight.single id
  rw [List.countP_eq_length_filter] at single
  have first : activity ∈ world.activities.filter fun activity => activity.flies id := List.mem_filter.mpr ⟨member, flies⟩
  have last : other ∈ world.activities.filter fun activity => activity.flies id := List.mem_filter.mpr ⟨also, second⟩
  cases found : world.activities.filter (fun activity => activity.flies id) with
  | nil =>
      rw [found] at first
      cases first
  | cons one rest =>
      rw [found] at single first last
      obtain rfl : rest = [] := List.eq_nil_of_length_eq_zero (Nat.le_zero.mp (Nat.le_of_succ_le_succ single))
      exact (List.mem_singleton.mp first).trans (List.mem_singleton.mp last).symm

/-! ### Barriers that face each other -/

-- Commands that wait at barriers, each of them held up by another one.
structure Facing (world : World) (ids : List Nat) (upheld : Token → Prop) : Prop where
  several : ∃ first ∈ ids, ∃ second ∈ ids, first ≠ second
  unparked : ∀ id ∈ ids, id ∈ world.player.executing.unparked
  waiting : ∀ activity ∈ world.activities, ∀ execution, activity.execution? = some execution → execution.id ∈ ids →
    ∃ token, execution.wait = some (.barrier token) ∧ upheld token

section Facing

variable {world : World} {ids : List Nat} {upheld : Token → Prop} (facing : world.Facing ids upheld)
include facing

theorem facing_undrained (id : Nat) : world.player.executing.drained (some id) = false := by
  refine Bool.eq_false_iff.mpr fun drained => ?_
  have alone := (Executing.drained_but_iff _ id).mp drained
  obtain ⟨first, here, second, there, different⟩ := facing.several
  exact different ((alone first (facing.unparked first here)).trans (alone second (facing.unparked second there)).symm)

theorem facing_blocked (quiet : ∀ token, upheld token → world.player.interrupt? token = none) (activity : Activity)
    (member : activity ∈ world.activities) (id : Nat) (held : id ∈ ids) (flies : activity.flies id = true) :
    activity.step? world.player = none := by
  obtain ⟨execution, own, rfl⟩ := (flies_iff activity id).mp flies
  obtain ⟨token, wait, upholds⟩ := facing.waiting activity member execution own held
  have undrained := facing_undrained facing execution.id
  cases activity with
  | running other caller =>
      obtain rfl : other = execution := Option.some.inj own
      simp [Activity.step?, Execution.step?, wait, Execution.wake?, quiet token upholds, undrained, Ending.of?]
  | _ => cases own

-- Whoever can move is not among them, and leaves them as they are.
theorem facing_step (numbered : world.Numbered) (flight : world.InFlight) (activity successor : Activity) (player : Player)
    (step : activity.step? world.player = some (successor, player))
    (free : ∀ execution, activity.execution? = some execution → execution.id ∉ ids) :
    (∀ id ∈ ids, id ∈ player.executing.unparked) ∧
      ∀ execution ∈ successor.execution?.toList ++ player.flights, execution.id ∉ ids := by
  cases step_aloft numbered.told step with
  | nothing same none_there =>
      refine ⟨fun id held => ?_, fun execution member => ?_⟩
      · rw [same]
        exact facing.unparked id held
      · rw [none_there] at member
        cases member
  | starts spot lane execution same fresh only =>
      refine ⟨fun id held => ?_, fun other member held => ?_⟩
      · rw [same]
        exact Executing.register_unparked _ spot lane id (facing.unparked id held)
      · rw [only] at member
        obtain rfl := List.mem_singleton.mp member
        have listed := ((Executing.mem_unparked _ _).mp (facing.unparked _ held)).1
        exact Nat.lt_irrefl _ (fresh ▸ flight.tidy.below _ listed)
  | goes execution now own besides same only =>
      refine ⟨fun id held => besides.mem_unparked id ?_ (facing.unparked id held), fun other member => ?_⟩
      · rintro rfl
        exact free execution own held
      · rw [only] at member
        rw [same other (Option.mem_toList.mp member)]
        exact free execution own

theorem facing_move (numbered : world.Numbered) (flight : world.InFlight)
    (quiet : ∀ token, upheld token → world.player.interrupt? token = none) (move : Move) :
    (world.move move).Facing ids upheld := by
  cases (move_comes world numbered move).1 with
  | stays clock requests player activities =>
      refine ⟨facing.several, fun id member => by rw [player]; exact facing.unparked id member, ?_⟩
      intro activity member execution flies held
      rcases asked_or_before activities member with ⟨request, rfl⟩ | old
      · cases flies
      · exact facing.waiting activity old execution flies held
  | moves activity successor others player stage _ there _ step told activities =>
      have free (execution : Execution) (flies : activity.execution? = some execution) : execution.id ∉ ids := by
        intro held
        have blocked := facing_blocked facing quiet activity (there.mem_iff.mpr List.mem_cons_self) execution.id held
          ((flies_iff activity _).mpr ⟨execution, flies, rfl⟩)
        rw [blocked] at step
        cases step
      obtain ⟨unparked, new⟩ := facing_step facing numbered flight activity successor player step free
      refine ⟨facing.several, fun id held => by rw [told]; exact unparked id held, fun other member execution flies held => ?_⟩
      rcases List.mem_cons.mp (activities.subset member) with rfl | member
      · exact absurd held (new execution (List.mem_append_left _ (Option.mem_toList.mpr flies)))
      · rcases List.mem_append.mp member with old | spawned
        · exact facing.waiting other (there.mem_iff.mpr (List.mem_cons_of_mem _ old)) execution flies held
        · exact absurd held (new execution (List.mem_append_right _ (mem_flights spawned flies)))

end Facing

-- The layers that interrupt are only ever raised.
theorem layers_move (numbered : world.Numbered) (move : Move) (token : Token)
    (quiet : (world.move move).player.interrupt? token = none) : world.player.interrupt? token = none := by
  cases (move_comes world numbered move).1 with
  | stays clock requests player =>
      rw [player] at quiet
      exact quiet
  | moves activity successor others player stage _ _ _ step told _ =>
      rw [told] at quiet
      exact (activity.step_spares world.player _ step).layers token quiet

theorem layers_after (numbered : world.Numbered) (moves : List Move) (token : Token)
    (quiet : (world.after moves).player.interrupt? token = none) : world.player.interrupt? token = none := by
  induction moves generalizing world with
  | nil => exact quiet
  | cons move moves ih => exact layers_move world numbered move token (ih _ (move_comes world numbered move).2 quiet)

theorem facing_after (numbered : world.Numbered) (flight : world.InFlight) (ids : List Nat)
    (upheld : Token → Prop) (facing : world.Facing ids upheld) (moves : List Move)
    (quiet : ∀ token, upheld token → (world.after moves).player.interrupt? token = none) :
    (world.after moves).Facing ids upheld := by
  induction moves generalizing world with
  | nil => exact facing
  | cons move moves ih =>
      have later := (move_comes world numbered move).2
      have now (token : Token) (upholds : upheld token) : world.player.interrupt? token = none :=
        layers_after world numbered (move :: moves) token (quiet token upholds)
      exact ih _ later (in_flight_after world numbered flight [move]) (facing_move facing numbered flight now move) quiet

-- What the commands in flight wait for.
def waits (world : World) : List (Nat × Option Wait) :=
  (world.activities.filterMap Activity.execution?).map fun execution => (execution.id, execution.wait)

theorem mem_waits (id : Nat) (wait : Option Wait) :
    (id, wait) ∈ world.waits ↔
      ∃ activity ∈ world.activities, ∃ execution, activity.execution? = some execution ∧ execution.id = id ∧
        execution.wait = wait := by
  simp only [waits, List.mem_map, List.mem_filterMap, Prod.mk.injEq]
  constructor
  · rintro ⟨execution, ⟨activity, member, flies⟩, own, waits⟩
    exact ⟨activity, member, execution, flies, own, waits⟩
  · rintro ⟨activity, member, execution, flies, own, waits⟩
    exact ⟨execution, ⟨activity, member, flies⟩, own, waits⟩

theorem facing_of_barriers (flight : world.InFlight)
    (blocked : ∀ id ∈ world.player.executing.unparked, ∃ token, (id, some (.barrier token)) ∈ world.waits)
    (several : 1 < world.player.executing.unparked.length) :
    world.Facing world.player.executing.unparked fun token => ∃ id, (id, some (.barrier token)) ∈ world.waits := by
  refine ⟨?_, fun _ member => member, fun activity member execution flies held => ?_⟩
  · have distinct : world.player.executing.unparked.Nodup := flight.tidy.distinct.filter _
    refine ⟨_, List.getElem_mem (Nat.lt_of_succ_lt several), _, List.getElem_mem several, fun same => ?_⟩
    exact absurd ((distinct.getElem_inj_iff).mp same) Nat.zero_ne_one
  · obtain ⟨token, waiting⟩ := blocked execution.id held
    obtain ⟨other, there, own, found, number, waits⟩ := (mem_waits world _ _).mp waiting
    obtain rfl : activity = other := flies_once world flight activity other member there execution.id
      ((flies_iff _ _).mpr ⟨execution, flies, rfl⟩) ((flies_iff _ _).mpr ⟨own, found, number⟩)
    obtain rfl : execution = own := Option.some.inj (flies.symm.trans found)
    exact ⟨token, waits, execution.id, waiting⟩

-- Whatever is asked of a player and in whatever order its activities go on: where all commands in flight that hold a drain up
-- wait at barriers, one of them may pass exactly if there is only one. Several of them never get on, whatever goes on beside
-- them, unless one is interrupted.
theorem barrier_passes_only_alone (start : World) (numbered : start.Numbered) (nobody : start.activities = [])
    (empty : start.player.executing.entries = []) (moves : List Move)
    (blocked : ∀ id ∈ (start.after moves).player.executing.unparked,
      ∃ token, (id, some (.barrier token)) ∈ (start.after moves).waits) :
    let world := start.after moves
    let executing := world.player.executing
    ((∃ id ∈ executing.unparked, executing.drained (some id) = true) ↔ executing.unparked.length = 1) ∧
      (1 < executing.unparked.length → ∀ later,
        (∀ id token, (id, some (.barrier token)) ∈ world.waits → (world.after later).player.interrupt? token = none) →
        ∀ id ∈ executing.unparked,
          id ∈ (world.after later).player.executing.unparked ∧
            (world.after later).player.executing.drained (some id) = false ∧
            ∀ activity ∈ (world.after later).activities, activity.flies id = true →
              activity.step? (world.after later).player = none) := by
  intro world executing
  have fresh : start.InFlight := by
    refine ⟨⟨by simp [empty], by simp [empty]⟩, fun activity member => ?_, fun id => ?_⟩
    · rw [nobody] at member
      cases member
    · rw [nobody]
      exact Nat.zero_le _
  have flight : world.InFlight := in_flight_after start numbered fresh moves
  refine ⟨executing.drained_iff_alone flight.tidy, fun several later quiet id held => ?_⟩
  have upheld (token : Token) (waiting : ∃ id, (id, some (.barrier token)) ∈ world.waits) :
      (world.after later).player.interrupt? token = none := by
    obtain ⟨id, there⟩ := waiting
    exact quiet id token there
  have facing := facing_after world (after_numbered start numbered moves) flight _ _
    (facing_of_barriers world flight blocked several) later upheld
  exact ⟨facing.unparked id held, facing_undrained facing id,
    fun activity member flies => facing_blocked facing upheld activity member id held flies⟩

-- A delay block and the script after it both come to a barrier while a detached command is in flight.
def crossing : World where
  player :=
    { draws := ⟨fun _ => 0, 0⟩
      library :=
        { scripts :=
            [⟨0, "road", #[⟨0, ⟨"road", 0, 0⟩, none, false, .wait 100⟩, ⟨0, ⟨"road", 1, 0⟩, none, true, .delay 0⟩,
                ⟨1, ⟨"road", 2, 0⟩, none, true, .await⟩, ⟨0, ⟨"road", 3, 0⟩, none, true, .await⟩,
                ⟨0, ⟨"road", 4, 0⟩, none, true, .stop⟩]⟩]
          nextHandle := 1 } }

-- Up to the end of the detached command.
def bothArrive : List Move :=
  List.flatten
    [[.ask (.play "road" none), .front, .leave], List.replicate 11 (.thread 0), List.replicate 2 (.thread 1),
      List.replicate 4 (.thread 2), [.pass 100], List.replicate 2 (.thread 1)]

def muchLater : List Move := [.pass 10000, .thread 0, .thread 2]

theorem crossing_barriers_never_pass :
    (crossing.after bothArrive).player.executing.unparked = [2, 3] ∧
      ∀ id ∈ (crossing.after bothArrive).player.executing.unparked,
        id ∈ ((crossing.after bothArrive).after muchLater).player.executing.unparked ∧
          ((crossing.after bothArrive).after muchLater).player.executing.drained (some id) = false := by
  have unparked : (crossing.after bothArrive).player.executing.unparked = [2, 3] := by decide +kernel
  have waits : (crossing.after bothArrive).waits = [(2, some (.barrier ⟨0, 0⟩)), (3, some (.barrier ⟨0, 0⟩))] := by decide +kernel
  have quiet : ((crossing.after bothArrive).after muchLater).player.interrupt? ⟨0, 0⟩ = none := by decide +kernel
  have blocked (id : Nat) (held : id ∈ (crossing.after bothArrive).player.executing.unparked) :
      ∃ token, (id, some (.barrier token)) ∈ (crossing.after bothArrive).waits := by
    rw [unparked] at held
    rw [waits]
    exact ⟨⟨0, 0⟩, by simpa using held⟩
  have several : 1 < (crossing.after bothArrive).player.executing.unparked.length := by
    rw [unparked]
    decide
  obtain ⟨_, never⟩ := barrier_passes_only_alone crossing (numbered_new _ rfl) rfl rfl bothArrive blocked
  have upheld (id : Nat) (token : Token) (waiting : (id, some (.barrier token)) ∈ (crossing.after bothArrive).waits) :
      ((crossing.after bothArrive).after muchLater).player.interrupt? token = none := by
    rw [waits] at waiting
    have same : token = ⟨0, 0⟩ := by
      simp only [List.mem_cons, List.not_mem_nil, or_false, Prod.mk.injEq, Option.some.injEq, Wait.barrier.injEq] at waiting
      exact waiting.elim And.right And.right
    rw [same]
    exact quiet
  refine ⟨unparked, fun id held => ?_⟩
  obtain ⟨there, undrained, _⟩ := never several muchLater upheld id held
  exact ⟨there, undrained⟩

-- Both wait at barriers, nothing else is in flight, and neither may pass.
theorem crossing_barriers_deadlock :
    let world := crossing.after bothArrive
    crossing.Orderly bothArrive ∧ (crossing.player.library.scripts.all fun loaded => loaded.playlist.fault?.isNone) = true ∧
      world.player.executing.unparked = [2, 3] ∧
      world.waits = [(2, some (.barrier ⟨0, 0⟩)), (3, some (.barrier ⟨0, 0⟩))] ∧
      (world.player.executing.unparked.any fun id => world.player.executing.drained (some id)) = false := by
  decide +kernel

end World

end Storyline
