import Storyline.Proofs.Abandonment

set_option autoImplicit false

/-!
Who takes part in a rendezvous. A command that does is parked as long as the rendezvous lasts, and at most one of all who take
part leads it. So a wait for everything in flight ends with nothing left but commands that take part in a rendezvous, and the
state of a player is replaced while they are still under way.
-/

namespace Storyline

/-! ### Roles -/

def Execution.role? (execution : Execution) : Option Role :=
  match execution.wait with
  | some (.rendezvous role) => some role
  | _ => none

def Execution.Progress.role? : Execution.Progress → Option Role
  | .going execution => execution.role?
  | .ended _ => none

def Activity.role? : Activity → Option Role
  | .running execution _ => execution.role?
  | .completing role _ => some role
  | _ => none

theorem Execution.role_awake {execution : Execution} (awake : execution.wait = none) : execution.role? = none := by
  rw [role?, awake]

-- What a move has to do with the rendezvous: nothing, or whoever makes it comes or goes.
inductive Attends (own : Option Role) (before : Player) (role : Option Role) (after : Player) : Prop where
  | apart (idle : own = none) (still : role = none) (rendezvous : after.rendezvous = before.rendezvous)
  | enters (callback : Option String) (idle : own = none) (takes : role = some (before.rendezvous.enter callback).1)
      (rendezvous : after.rendezvous = (before.rendezvous.enter callback).2)
  | concludes (leads : own = some .leader) (still : role = none)
      (rendezvous : after.rendezvous = before.rendezvous.conclude.2)
  | leaves (generation : Nat) (follows : own = some (.follower generation)) (still : role = none)
      (rendezvous : after.rendezvous = before.rendezvous)

namespace Attends

variable {reach : Reach} {own role : Option Role} {before between after : Player}

theorem then_spares (attends : Attends own before role between) (spares : Spares reach between after)
    (still : reach.meets = false) : Attends own before role after := by
  have same := spares.meets still
  cases attends with
  | apart idle none_ rendezvous => exact .apart idle none_ (same.trans rendezvous)
  | enters callback idle takes rendezvous => exact .enters callback idle takes (same.trans rendezvous)
  | concludes leads none_ rendezvous => exact .concludes leads none_ (same.trans rendezvous)
  | leaves generation follows none_ rendezvous => exact .leaves generation follows none_ (same.trans rendezvous)

theorem after_same (same : between.rendezvous = before.rendezvous) (attends : Attends own between role after) :
    Attends own before role after := by
  cases attends with
  | apart idle none_ rendezvous => exact .apart idle none_ (rendezvous.trans same)
  | enters callback idle takes rendezvous => exact .enters callback idle (same ▸ takes) (same ▸ rendezvous)
  | concludes leads none_ rendezvous => exact .concludes leads none_ (same ▸ rendezvous)
  | leaves generation follows none_ rendezvous => exact .leaves generation follows none_ (rendezvous.trans same)

end Attends

namespace Player

variable (player : Player)

theorem enter_rendezvous_eq (callback : Option String) (parked : Option Nat) :
    (player.enterRendezvous callback parked).1 = (player.rendezvous.enter callback).1 ∧
      (player.enterRendezvous callback parked).2.rendezvous = (player.rendezvous.enter callback).2 := by
  unfold enterRendezvous
  cases parked with
  | none =>
      refine ⟨rfl, ?_⟩
      simp only
      split <;> rfl
  | some id =>
      refine ⟨rfl, ?_⟩
      simp only
      split <;> rfl

theorem leave_attends (role : Role) (parked : Option Nat) (left : Player)
    (leaves : player.leaveRendezvous? role parked = some left) : Attends (some role) player none left := by
  have unparked (player : Player) : (player.unpark parked).rendezvous = player.rendezvous := by cases parked <;> rfl
  rcases player.leave_rendezvous_cases role parked left leaves with ⟨rfl, _, stage, rfl⟩ | ⟨generation, rfl, _, rfl⟩
  · exact .concludes rfl rfl (unparked _)
  · exact .leaves generation rfl rfl (unparked player)

end Player

namespace Execution

theorem unless_failed_role (execution : Execution) (changed : Except Error Unit × Player) (awake : execution.wait = none) :
    (execution.unlessFailed changed).1.role? = none := by
  obtain ⟨_ | _, _⟩ := changed
  · rfl
  · exact role_awake awake

theorem perform_apart (execution : Execution) (effect : Effect) (player : Player) (awake : execution.wait = none)
    (still : effect.reach.meets = false) : (execution.perform effect player).1.role? = none := by
  have performs := execution.perform_performs effect player
  generalize (execution.perform effect player).1 = progress at performs ⊢
  cases performs with
  | ended => rfl
  | pushes extra => exact @role_awake (execution.push extra) awake
  | awaits wait _ meets =>
      cases wait with
      | rendezvous role =>
          obtain rfl := meets role rfl
          cases still
      | _ => rfl

theorem perform_attends (execution : Execution) (effect : Effect) (player : Player) (awake : execution.wait = none) :
    Attends none player (execution.perform effect player).1.role? (execution.perform effect player).2 := by
  have spares := execution.perform_spares effect player
  have apart := execution.perform_apart effect player awake
  cases effect with
  | completeOthers =>
      obtain ⟨role, rendezvous⟩ := player.enter_rendezvous_eq none (some execution.id)
      exact .enters none rfl (congrArg some role) rendezvous
  | _ => exact .apart rfl (apart rfl) (spares.meets rfl)

theorem step_attends (execution : Execution) (player : Player) (progress : Progress) (after : Player)
    (step : execution.step? player = some (progress, after)) : Attends execution.role? player progress.role? after := by
  rcases step_opens execution player progress after step with
    ⟨wait, woken, waits, wakes, moved⟩ | ⟨awake, _, same, rests⟩ | ⟨awake, effect, rest, _, moved⟩
  · have still : progress.role? = none := by
      have goes := unless_failed_role { execution with wait := none } woken rfl
      rw [moved] at goes
      exact goes
    have same : woken.2 = after := by rw [← unless_failed_player, moved]
    have spares := execution.wake_spares wait player woken wakes
    rw [still, ← same, role?, waits]
    cases wait with
    | rendezvous role =>
        obtain ⟨left, leaves, rfl⟩ := Option.map_eq_some_iff.mp wakes
        exact player.leave_attends role _ left leaves
    | _ => exact .apart rfl rfl (spares.meets rfl)
  · have still : progress.role? = none := by
      cases progress with
      | going next => exact role_awake (rests next rfl).2
      | ended result => rfl
    exact .apart (role_awake awake) still (same ▸ rfl)
  · have done := perform_attends { execution with effects := rest } effect player awake
    rw [moved] at done
    rw [role_awake awake]
    exact done

end Execution

/-! ### Requests -/

-- Who has called a rendezvous together without being a command.
def Activity.summons? : Activity → Option Role
  | .completing role _ => some role
  | _ => none

theorem Activity.role_none {activity : Activity} (quiet : activity.summons? = none)
    (awake : ∀ execution, activity.execution? = some execution → execution.role? = none) : activity.role? = none := by
  cases activity with
  | running execution caller => exact awake execution rfl
  | completing role sequel => cases quiet
  | _ => rfl

namespace Player

section Requests

variable (player : Player)

theorem complete_attends (callback : Option String) (sequel : Sequel) :
    Attends none player (player.complete callback sequel).1.role? (player.complete callback sequel).2 := by
  obtain ⟨role, rendezvous⟩ := player.enter_rendezvous_eq callback none
  exact .enters callback rfl (congrArg some role) rendezvous

theorem resume_at_role (sequel : Sequel) : (resumeAt sequel).role? = none := by cases sequel <;> rfl

theorem handle_attends (signal : Signal) (sequel : Sequel) :
    Attends none player (player.handle signal sequel).1.role? (player.handle signal sequel).2 := by
  have resumed (after : Player) (spares : Spares {} player after) :
      Attends none player (resumeAt sequel).role? after := .apart rfl (resume_at_role sequel) (spares.meets rfl)
  cases signal with
  | «continue» =>
      simp only [handle]
      split
      · exact resumed _ (with_mode_spares _ _)
      · split
        · exact resumed _ ((set_waiting_edits _ _).spares rfl)
        · split
          · exact resumed _ (.refl _)
          · exact complete_attends player none sequel
  | skipHold pressed => exact resumed _ ((set_skip_edits _ _).spares rfl)
  | toggleSkip => exact resumed _ ((set_skip_edits _ _).spares rfl)
  | toggleAutoPlay => exact resumed _ (with_mode_spares _ _)
  | stop => exact resumed _ ((Edit.stop _ _ (by decide)).spares.wider rfl)

theorem roll_back_to_attends (spot : Spot) :
    Attends none player (player.rollBackTo spot).1.role? (player.rollBackTo spot).2 := by
  refine .apart rfl ?_ ((roll_back_to_edits player spot).spared.meets rfl)
  unfold rollBackTo
  split
  · rfl
  · split <;> rfl

theorem rewind_to_index_attends (playlist : Playlist) (target : Nat) :
    Attends none player (player.rewindToIndex playlist target).1.role? (player.rewindToIndex playlist target).2 := by
  unfold rewindToIndex
  split
  · have stopped : Spares {} player player.stop := (Edit.stop player .requested (by decide)).spares.wider rfl
    exact .after_same (stopped.meets rfl) (complete_attends player.stop none _)
  · split
    · exact .apart rfl rfl rfl
    · exact roll_back_to_attends player _

theorem ask_summons (request : Request) (still : request.reach.meets = false) : (player.ask request).1.summons? = none := by
  have answered (result : Except Error Unit × Player) : (answer result).1.summons? = none := by
    obtain ⟨_ | _, _⟩ := result <;> rfl
  cases request with
  | play _ _ | resume | jump _ | call _ _ => exact answered _
  | transientNamed name script =>
      simp only [ask]
      split <;> rfl
  | complete _ | input _ | rewindLine _ | rewindSpot _ => cases still
  | _ => rfl

theorem ask_attends (request : Request) : Attends none player (player.ask request).1.role? (player.ask request).2 := by
  have apart (still : request.reach.meets = false) :
      Attends none player (player.ask request).1.role? (player.ask request).2 := by
    refine .apart rfl (Activity.role_none (ask_summons player request still) fun execution flies => ?_)
      ((ask_spares player request).meets still)
    have rests := ask_rests player request
    cases asked : (player.ask request).1 with
    | running own caller =>
        rw [asked] at rests
        cases rests
    | _ =>
        rw [asked] at flies
        cases flies
  cases request with
  | complete callback => exact complete_attends player callback _
  | input signal => exact handle_attends player signal _
  | rewindLine line =>
      simp only [ask, rewindToLine]
      split
      · exact .apart rfl rfl rfl
      · split
        · exact .apart rfl rfl rfl
        · exact rewind_to_index_attends player _ _
  | rewindSpot spot =>
      simp only [ask, rewindToSpot]
      split
      · exact roll_back_to_attends player spot
      · split
        · exact .apart rfl rfl rfl
        · exact rewind_to_index_attends player _ _
  | _ => exact apart rfl

end Requests

end Player

/-! ### Activities -/

def Activity.isCalled : Activity → Bool
  | .asked _ | .listening _ | .completing _ _ => true
  | _ => false

theorem Activity.Becomes.summons {player : Player} {activity successor : Activity}
    (becomes : activity.Becomes player successor) (free : activity.isCalled = false) : successor.summons? = none := by
  cases becomes with
  | rests _ _ _ => cases free
  | holds _ _ _ _ _ hold _ _ =>
      cases successor with
      | completing _ _ => cases hold
      | _ => rfl
  | listens _ _ _ own _ =>
      cases activity with
      | listening _ | completing _ _ => cases free
      | _ => cases own
  | _ => rfl

theorem step_attends (activity : Activity) (player : Player) (successor : Activity) (after : Player) (told : player.outbox = [])
    (step : activity.step? player = some (successor, after)) :
    Attends activity.role? player successor.role? after := by
  have spares := activity.step_spares player _ step
  have quiet := (activity.step_becomes player _ step).summons
  -- a command that has only just started takes part in nothing
  have apart (idle : activity.execution? = none) (own : activity.role? = none) (still : activity.reach.meets = false)
      (quiet : successor.summons? = none) : Attends activity.role? player successor.role? after := by
    refine .apart own (Activity.role_none quiet fun execution flies => ?_) (spares.meets still)
    have there : execution ∈ successor.execution?.toList ++ after.flights :=
      List.mem_append_left _ (Option.mem_toList.mpr flies)
    cases World.step_changed told step execution there with
    | goes old flew =>
        rw [idle] at flew
        cases flew
    | starts _ _ _ new =>
        rw [← new.origin]
        rfl
  cases activity with
  | asked request =>
      obtain ⟨rfl, rfl⟩ := Prod.mk.inj (Option.some.inj step)
      exact Player.ask_attends player request
  | running execution caller =>
      obtain ⟨⟨progress, between⟩, went, rest⟩ := Option.map_eq_some_iff.mp step
      have attends := execution.step_attends player progress between went
      obtain ⟨rfl, rfl⟩ := Prod.mk.inj rest
      cases progress with
      | going next => exact attends
      | ended result =>
          have idle : ((between.finish execution result).2.resumeCaller caller (between.finish execution result).1).1.role? =
              none := by
            refine Activity.role_none (quiet rfl) fun other flies => ?_
            rw [Player.resume_caller_idle] at flies
            cases flies
          have ended := (attends.then_spares (Player.finish_edits between execution result).spared rfl).then_spares
            (Player.resume_caller_spares (between.finish execution result).2 caller (between.finish execution result).1)
            (by cases caller <;> rfl)
          rw [show Activity.role? _ = none from idle]
          exact ended
  | listening inlet =>
      simp only [Activity.step?] at step
      split at step
      · next signal between received =>
          obtain ⟨found, _, taken⟩ := Option.bind_eq_some_iff.mp received
          have kept : between.rendezvous = player.rendezvous := by
            split at taken
            · cases taken
            · obtain ⟨_, rfl⟩ := Prod.mk.inj (Option.some.inj taken)
              rfl
          obtain ⟨rfl, rfl⟩ := Prod.mk.inj (Option.some.inj step)
          exact .after_same kept (Player.handle_attends between signal _)
      · split at step
        · obtain ⟨rfl, rfl⟩ := Prod.mk.inj (Option.some.inj step)
          exact .apart rfl rfl rfl
        · cases step
  | completing role sequel =>
      obtain ⟨left, leaves, rest⟩ := Option.map_eq_some_iff.mp step
      have released : Spares {} left (left.afterCompletion sequel).2 := (Player.after_completion_edits left sequel).spares (by cases sequel <;> rfl)
      have idle : (left.afterCompletion sequel).1.role? = none := by cases sequel <;> rfl
      rw [rest] at released idle
      rw [show successor.role? = none from idle]
      exact (player.leave_attends role none left leaves).then_spares released rfl
  | finished reply => cases step
  | _ => exact apart rfl rfl rfl (quiet rfl)

/-! ### The whole gathering -/

theorem spawned_role (activity : Activity) (player : Player) (successor : Activity) (after : Player) (told : player.outbox = [])
    (step : activity.step? player = some (successor, after)) (other : Activity) (spawned : other ∈ after.spawns) :
    other.role? = none := by
  have new := spawned_new step told other spawned
  refine Activity.role_none ?_ fun execution flies => ?_
  · cases other with
    | completing role sequel => cases new
    | _ => rfl
  · have silent : player.flights = [] := by
      rw [Player.flights, told]
      rfl
    have there := mem_flights spawned flies
    cases step_flies step with
    | starts _ traffic =>
        cases traffic with
        | nothing _ flights =>
            rw [show after.flights = [] from flights.trans silent] at there
            cases there
        | starts spot lane own _ _ started _ _ launched =>
            rw [silent] at started
            obtain rfl := List.mem_singleton.mp (started ▸ List.mem_append_right _ there)
            rw [← launched.origin]
            rfl
    | goes _ _ _ flights =>
        rw [show after.flights = [] from flights.trans silent] at there
        cases there

theorem Execution.step_parked (execution next : Execution) (player after : Player)
    (step : execution.step? player = some (.going next, after)) (parked : execution.id ∈ after.executing.parked) :
    next.role?.isSome = true ∨ (execution.id ∈ player.executing.parked ∧ execution.role? = none) := by
  rcases step_opens execution player _ after step with
    ⟨wait, woken, waits, wakes, moved⟩ | ⟨awake, _, same, _⟩ | ⟨awake, effect, rest, _, moved⟩
  · have same : woken.2 = after := by rw [← unless_failed_player, moved]
    have spares := execution.wake_spares wait player woken wakes
    rw [← same] at parked
    rw [role?, role?, waits]
    cases wait with
    | rendezvous role =>
        obtain ⟨left, leaves, rfl⟩ := Option.map_eq_some_iff.mp wakes
        rw [(player.leave_rendezvous_unparks role execution.id left leaves).1] at parked
        simp [Executing.unpark] at parked
    | _ => exact .inr ⟨(spares.executing rfl).1 ▸ parked, rfl⟩
  · exact .inr ⟨same ▸ parked, role_awake awake⟩
  · have spares := perform_spares { execution with effects := rest } effect player
    have attends := perform_attends { execution with effects := rest } effect player awake
    rw [moved] at spares attends
    have apart (still : effect.reach.executing = false) :
        next.role?.isSome = true ∨ (execution.id ∈ player.executing.parked ∧ execution.role? = none) :=
      .inr ⟨(spares.executing still).1 ▸ parked, role_awake awake⟩
    cases effect with
    | completeOthers =>
        obtain rfl := Progress.going.inj (congrArg Prod.fst moved)
        exact .inl rfl
    | _ => exact apart rfl

namespace World

def leaders (world : World) : Nat := world.activities.countP fun activity => activity.role? = some .leader

-- Commands are parked for a rendezvous only, and at most one of all who take part leads it.
structure Gathered (world : World) : Prop where
  leaders : world.leaders ≤ if world.player.rendezvous.inProgress then 1 else 0
  parked : ∀ execution ∈ world.executions, execution.id ∈ world.player.executing.parked → execution.role?.isSome = true

section Moves

variable {world next : World} {activity successor : Activity} {others : List Activity} {player : Player}

theorem leaders_moves (gathered : world.Gathered) (told : world.player.outbox = [])
    (there : world.activities.Perm (activity :: others)) (step : activity.step? world.player = some (successor, player))
    (activities : next.activities.Subperm (successor :: (others ++ player.spawns))) :
    next.leaders ≤ if player.rendezvous.inProgress then 1 else 0 := by
  have before := gathered.leaders
  rw [leaders, there.countP_eq, List.countP_cons] at before
  have spawned : player.spawns.countP (fun activity => activity.role? = some .leader) = 0 := by
    refine List.countP_eq_zero.mpr fun other member leads => ?_
    rw [spawned_role activity world.player successor player told step other member] at leads
    cases leads
  have after : next.leaders ≤ (successor :: (others ++ player.spawns)).countP fun activity => activity.role? = some .leader :=
    activities.countP_le _
  rw [List.countP_cons, List.countP_append, spawned] at after
  refine Nat.le_trans after ?_
  cases step_attends activity world.player successor player told step with
  | apart idle still rendezvous =>
      rw [rendezvous]
      simp only [idle, still] at before ⊢
      exact before
  | enters callback idle takes rendezvous =>
      rw [rendezvous, takes]
      by_cases going : world.player.rendezvous.inProgress = true
      · simp only [idle, going, Rendezvous.enter] at before ⊢
        exact before
      · simp only [idle, going, Rendezvous.enter] at before ⊢
        exact Nat.succ_le_succ before
  | concludes leads still rendezvous =>
      have ended : player.rendezvous.inProgress = false := by
        rw [rendezvous]
        rfl
      have alone : others.countP (fun activity => activity.role? = some .leader) = 0 := by
        have most : (if world.player.rendezvous.inProgress = true then 1 else 0) ≤ 1 := by split <;> decide
        rw [leads, if_pos (decide_eq_true rfl)] at before
        omega
      rw [still, ended, alone]
      exact Nat.le_refl 0
  | leaves generation follows still rendezvous =>
      rw [rendezvous]
      simp only [follows, still] at before ⊢
      exact before

theorem parked_moves (gathered : world.Gathered) (flight : world.InFlight) (listed : world.Listed)
    (told : world.player.outbox = []) (there : world.activities.Perm (activity :: others))
    (step : activity.step? world.player = some (successor, player)) (execution : Execution)
    (arises : Arises world others player execution) (parked : execution.id ∈ player.executing.parked) :
    execution.role?.isSome = true := by
  cases arises with
  | held other member flies before =>
      apply gathered.parked execution before
      cases step_aloft told step with
      | nothing same => exact same ▸ parked
      | starts spot lane _ same =>
          rw [same] at parked
          exact parked
      | goes own _ mover besides =>
          exact (besides.parked execution.id (others_apart flight there own mover other member execution flies)).mp parked
  | goes old before same went =>
      have id : execution.id = old.id := (Execution.origin_same same).1
      rcases old.step_parked execution world.player player went (id ▸ parked) with takes | ⟨earlier, idle⟩
      · exact takes
      · have took := gathered.parked old before earlier
        rw [idle] at took
        cases took
  | starts ids same _ _ =>
      have before := flight.tidy.below execution.id (listed.parked execution.id (same ▸ parked))
      rw [ids.1] at before
      exact absurd before (Nat.lt_irrefl _)

end Moves

theorem move_gathered (world : World) (numbered : world.Numbered) (flight : world.InFlight) (listed : world.Listed)
    (gathered : world.Gathered) (move : Move) : (world.move move).Gathered := by
  cases (move_comes world numbered move).1 with
  | stays clock requests player activities =>
      refine ⟨?_, fun execution under parked => ?_⟩
      · rw [player]
        exact Nat.le_trans (count_stays activities _ fun _ => rfl) gathered.leaders
      · rw [player] at parked
        exact gathered.parked execution (executions_stay activities execution under) parked
  | moves activity successor others player stage _ there _ step told activities =>
      refine ⟨?_, fun execution under parked => ?_⟩
      · have most := leaders_moves gathered numbered.told there step activities
        rw [told]
        exact most
      · rw [told] at parked
        have arises := executions_arise numbered.told there step activities execution under
        exact parked_moves gathered flight listed numbered.told there step execution arises parked

theorem gathered_after (start : World) (fresh : start.Fresh) (moves : List Move) : (start.after moves).Gathered := by
  have nothing : start.Gathered := by
    refine ⟨?_, fun execution under => ?_⟩
    · rw [leaders, fresh.nobody]
      exact Nat.zero_le _
    · rw [fresh_executions start fresh] at under
      cases under
  have rest (world : World) (numbered : world.Numbered) (flight : world.InFlight) (listed : world.Listed)
      (gathered : world.Gathered) : (world.after moves).Gathered := by
    induction moves generalizing world with
    | nil => exact gathered
    | cons move moves ih =>
        apply ih (world.move move) (move_comes world numbered move).2
        · exact in_flight_after world numbered flight [move]
        · exact move_listed world numbered move flight listed
        · exact move_gathered world numbered flight listed gathered move
  exact rest start fresh.numbered (fresh_in_flight start fresh) (fresh_listed start fresh) nothing

/-! ### What is left when the state is replaced -/

-- The wait for everything in flight is over as soon as all that is left is parked; the state is replaced in the same move.
theorem drain_over (world : World) (move : Move) (replacement : Replacement)
    (drains : world.mover? move = some (.draining replacement)) :
    (∃ reply, world.replies? move = some reply) ↔ world.player.executing.drained none = true := by
  rw [replies?, drains, Option.bind_some]
  simp only [Activity.step?]
  split
  · next drained => simp [drained, Activity.reply?]
  · next busy => simp [busy]

-- However the commands in flight, rendezvous and barriers interleave with a reset or a load: the state is replaced as soon as
-- every command in flight is parked, and it leaves them as they are. Each of them takes part in a rendezvous. So as long as
-- requests are awaited, nothing is in flight at that moment exactly if nobody takes part in a rendezvous.
theorem replaced_beside_rendezvous (start : World) (fresh : start.Fresh) (moves : List Move) (move : Move)
    (replacement : Replacement) (drains : (start.after moves).mover? move = some (.draining replacement)) :
    let world := start.after moves
    let executing := world.player.executing
    ((∃ reply, world.replies? move = some reply) ↔ ∀ entry ∈ executing.entries, entry.id ∈ executing.parked) ∧
    ∀ reply, world.replies? move = some reply →
      (world.move move).player.executing = executing ∧
      (∀ execution ∈ world.executions, ∃ role, execution.wait = some (.rendezvous role)) ∧
      (start.Awaited moves → (executing.entries = [] ↔ ∀ execution ∈ world.executions, execution.role? = none)) := by
  intro world executing
  have ends := drain_over world move replacement drains
  have flight := in_flight_after start fresh.numbered (fresh_in_flight start fresh) moves
  have listed := listed_after start fresh.numbered (fresh_in_flight start fresh) (fresh_listed start fresh) moves
  have gathered := gathered_after start fresh moves
  refine ⟨ends.trans (Executing.drained_none_iff executing), fun reply replies => ?_⟩
  have drained : executing.drained none = true := ends.mp ⟨reply, replies⟩
  have attends (execution : Execution) (under : execution ∈ world.executions) : execution.role?.isSome = true :=
    gathered.parked execution under ((Executing.drained_none_iff executing).mp drained _ (listed.entered execution under))
  refine ⟨?_, fun execution under => ?_, fun awaited => ?_⟩
  · have step : (Activity.draining replacement).step? world.player =
        some (.finished (world.player.replace replacement).1, (world.player.replace replacement).2) := by
      rw [Activity.step?, if_pos drained]
    obtain ⟨⟨stage, told⟩, _⟩ := mover_steps (after_numbered start fresh.numbered moves) drains step
    rw [told]
    exact ((Player.replace_spares world.player replacement).executing rfl).1
  · have takes := attends execution under
    rw [Execution.role?] at takes
    split at takes
    · next role waits => exact ⟨role, waits⟩
    · cases takes
  · have flying := (awaited_after start fresh.numbered (fresh_mirroring start fresh) (fresh_flying start fresh) moves awaited).2
    have perm := entries_perm world flight listed flying
    constructor
    · intro empty execution under
      have entered := listed.entered execution under
      rw [show world.player.executing.entries = [] from empty] at entered
      cases entered
    · intro nobody
      have nothing : world.executions = [] := List.eq_nil_iff_forall_not_mem.mpr fun execution under => by
        have takes := attends execution under
        rw [nobody execution under] at takes
        cases takes
      rw [nothing] at perm
      exact List.perm_nil.mp perm

-- A playlist with a command that cannot be interrupted, and one with a transition.
def stubborn : Playlist := ⟨"x", #[⟨0, ⟨"x", 0, 0⟩, none, true, .custom { name := "pause", effects := [.pause 100] }⟩]⟩

def change : Playlist :=
  ⟨"fx", #[⟨0, ⟨"fx", 0, 0⟩, none, true, .transition 500⟩, ⟨1, ⟨"fx", 1, 0⟩, none, true, .label "a"⟩]⟩

-- While the stubborn command goes on, a signal asks to complete what is in flight; the transition comes to the rendezvous, and
-- a load waits for everything. The stubborn command is the first to end.
def loadWhileGathering : List Move :=
  List.flatten
    [[.ask (.transient "x" stubborn), .front, .leave], List.replicate 3 (.thread 0),
      [.ask .bind, .front, .leave, .ask (.send [.continue]), .front, .leave, .thread 1,
        .ask (.transient "fx" change), .front, .leave], List.replicate 13 (.thread 2),
      [.ask (.load {}), .front, .pass 100], List.replicate 3 (.thread 0)]

theorem load_beside_transition :
    let world := (stocked []).after loadWhileGathering
    (∃ replacement, world.mover? .front = some (.draining replacement)) ∧ world.replies? .front = some .done ∧
      world.player.executing.entries = [⟨3, ⟨"fx", 0, 0⟩, .transient⟩] ∧
      (world.move .front).player.executing = world.player.executing ∧
      ∀ execution ∈ world.executions, ∃ role, execution.wait = some (.rendezvous role) := by
  intro world
  have fresh : (stocked []).Fresh := ⟨numbered_new _ rfl, rfl, rfl, ⟨rfl, rfl⟩, rfl⟩
  have drains : ∃ replacement, world.mover? .front = some (.draining replacement) := ⟨.load {} false, rfl⟩
  have replies : world.replies? .front = some .done := by decide +kernel
  obtain ⟨replacement, drains⟩ := drains
  obtain ⟨same, attends, _⟩ := (replaced_beside_rendezvous (stocked []) fresh loadWhileGathering .front replacement drains).2
    _ replies
  exact ⟨⟨replacement, drains⟩, replies, by decide +kernel, same, attends⟩

theorem load_leaves_transition_in_flight :
    let world := (stocked []).after loadWhileGathering
    (stocked []).Orderly loadWhileGathering ∧ (stocked []).Awaited loadWhileGathering ∧
      world.replies? .front = some .done ∧ (world.move .front).player.executing.entries ≠ [] := by
  decide +kernel

end World

end Storyline
