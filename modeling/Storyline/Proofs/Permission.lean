import Storyline.Proofs.Records

set_option autoImplicit false

/-!
Which records can be rolled back to. A command that asks for input raises the input wait in the end, and that permits to roll
back to the newest record. Whatever goes on beside it, this is the record of the command of the main lane that was started
last, as long as the asking command is not given up.
-/

namespace Storyline

/-! ### Commands that ask for input -/

def Kind.asks : Kind → Bool
  | .print _ | .waitInput => true
  | _ => false

theorem Kind.asks_effects {kind : Kind} (asks : kind.asks = true) (effect : Effect) (member : effect ∈ kind.effects) :
    (∃ line, effect = .say line ∧ kind = .print line) ∨ effect = .askInput := by
  cases kind with
  | print line =>
      rcases List.mem_cons.mp member with rfl | rest
      · exact .inl ⟨line, rfl, rfl⟩
      · split at rest
        · exact .inr (List.mem_singleton.mp rest)
        · cases rest
  | waitInput => exact .inr (List.mem_singleton.mp member)
  | _ => cases asks

theorem Player.notes_quiet (player : Player) (lines : List String) :
    ∃ stage, player.notes lines = { player with stage := stage } := by
  induction lines generalizing player with
  | nil => exact ⟨player.stage, rfl⟩
  | cons line lines ih =>
      obtain ⟨stage, rest⟩ := ih (player.note line)
      exact ⟨stage, rest⟩

namespace Execution

-- It has nothing else to do than what its kind does, and waits for a line to appear or for nothing.
structure Calm (execution : Execution) : Prop where
  todo : ∀ effect ∈ execution.effects, effect ∈ execution.command.kind.effects
  waits : ∀ wait ∈ execution.wait, execution.command.kind ≠ .waitInput ∧
    ∃ what deadline closing, wait = .sleep execution.token what deadline closing

-- In the middle of a command that was given up there is nothing but a wait.
def Upheld (execution : Execution) (player : Player) : Prop :=
  execution.begun = true → execution.wait = none → player.abandoned ≤ execution.token.full

theorem origin_calm {execution : Execution} (new : execution.origin = execution) (player : Player) :
    execution.Calm ∧ execution.Upheld player := by
  rw [← new]
  refine ⟨⟨fun _ member => absurd member List.not_mem_nil, fun _ waits => ?_⟩, fun begun => ?_⟩
  · cases waits
  · cases begun

-- What a move of such a command does.
inductive Speaks (execution : Execution) (player : Player) (progress : Progress) (after : Player) : Prop where
  | ends (stage : List (Nat × String)) (result : Except Error Unit) (ended : progress = .ended result)
      (quiet : after = { player with stage := stage })
  | goes (stage : List (Nat × String)) (next : Execution) (going : progress = .going next) (calm : next.Calm)
      (upheld : next.Upheld player) (quiet : after = { player with stage := stage })
  | asks (next : Execution) (going : progress = .going next) (calm : next.Calm) (upheld : next.Upheld player)
      (ready : execution.begun = true ∧ execution.wait = none) (main : execution.lane = .main)
      (raises : after = player.setWaiting true)

theorem upheld_of_ending {player : Player} {token : Token} {what : String} {done : Bool} {ending : Ending}
    (ends : Ending.of? what (player.interrupt? token) done = some (.ok ending)) : player.abandoned ≤ token.full := by
  rw [Player.interrupt?, Interrupt.of?] at ends
  by_cases abandoned : player.isAbandoned token.full = true
  · rw [if_pos abandoned] at ends
    cases ends
  · exact Nat.le_of_not_lt fun before => abandoned (decide_eq_true before)

variable {execution : Execution} {player : Player} {progress : Progress} {after : Player}

theorem play_speaks (cue : Cue) (rest : List Effect) (printed : execution.command.kind ≠ .waitInput)
    (calm : ∀ effect ∈ rest, effect ∈ execution.command.kind.effects) (upheld : player.abandoned ≤ execution.token.full)
    (moved : { execution with effects := rest, wait := none }.play cue execution.token player = (progress, after)) :
    execution.Speaks player progress after := by
  obtain ⟨opened, opens⟩ := player.notes_quiet cue.opening
  rw [play] at moved
  split at moved
  · obtain ⟨rfl, rfl⟩ := Prod.mk.inj moved
    exact .ends opened _ rfl opens
  · next what millis _ _ =>
      obtain ⟨rfl, rfl⟩ := Prod.mk.inj moved
      refine .goes opened _ rfl ⟨calm, fun wait waits => ⟨printed, ?_⟩⟩ (fun _ nothing => ?_) opens
      · exact ⟨what, _, cue.closing, (Option.some.inj waits).symm⟩
      · cases nothing
  · obtain ⟨closed, closes⟩ := (player.notes cue.opening).notes_quiet cue.closing
    obtain ⟨rfl, rfl⟩ := Prod.mk.inj moved
    refine .goes closed _ rfl ⟨calm, fun wait waits => ?_⟩ (fun _ _ => upheld) ?_
    · cases waits
    · rw [closes, opens]

theorem step_speaks (asks : execution.command.kind.asks = true) (calm : execution.Calm) (upheld : execution.Upheld player)
    (step : execution.step? player = some (progress, after)) : execution.Speaks player progress after := by
  rw [step?] at step
  cases waits : execution.wait with
  | some wait =>
      obtain ⟨printed, what, deadline, closing, rfl⟩ := calm.waits wait waits
      simp only [waits] at step
      obtain ⟨woken, wakes, moved⟩ := Option.map_eq_some_iff.mp step
      rw [wake?] at wakes
      split at wakes
      · cases wakes
      · obtain rfl := Option.some.inj wakes
        obtain ⟨rfl, rfl⟩ := Prod.mk.inj moved
        exact .ends player.stage _ rfl rfl
      · next ending ended =>
          obtain rfl := Option.some.inj wakes
          obtain ⟨rfl, rfl⟩ := Prod.mk.inj moved
          obtain ⟨closed, closes⟩ := player.notes_quiet closing
          refine .goes closed _ rfl ⟨calm.todo, fun _ nothing => ?_⟩ (fun _ _ => upheld_of_ending ended) closes
          cases nothing
  | none =>
      simp only [waits] at step
      by_cases begun : execution.begun = true
      · rw [if_pos begun] at step
        cases todo : execution.effects with
        | nil =>
            simp only [todo] at step
            obtain ⟨rfl, rfl⟩ := Prod.mk.inj (Option.some.inj step)
            exact .ends player.stage _ rfl rfl
        | cons effect rest =>
            simp only [todo] at step
            have moved := Option.some.inj step
            have left (other : Effect) (member : other ∈ rest) : other ∈ execution.command.kind.effects :=
              calm.todo other (todo ▸ List.mem_cons_of_mem _ member)
            have still : ({ execution with effects := rest, wait := none } : Execution).Calm := by
              refine ⟨left, fun wait nothing => ?_⟩
              cases nothing
            rcases Kind.asks_effects asks effect (calm.todo effect (todo ▸ List.mem_cons_self)) with ⟨line, rfl, kind⟩ | rfl
            · refine play_speaks _ rest (fun bare => ?_) left (upheld begun waits) moved
              rw [kind] at bare
              cases bare
            · simp only [perform] at moved
              by_cases main : execution.lane = .main
              · rw [if_pos main] at moved
                obtain ⟨rfl, rfl⟩ := Prod.mk.inj moved
                exact .asks _ rfl still (fun _ _ => upheld begun waits) ⟨begun, waits⟩ main rfl
              · rw [if_neg main] at moved
                obtain ⟨rfl, rfl⟩ := Prod.mk.inj moved
                exact .goes player.stage _ rfl still (fun _ _ => upheld begun waits) rfl
      · rw [if_neg begun] at step
        by_cases abandoned : player.isAbandoned execution.token.full = true
        · rw [if_pos abandoned] at step
          obtain ⟨rfl, rfl⟩ := Prod.mk.inj (Option.some.inj step)
          exact .ends player.stage _ rfl rfl
        · rw [if_neg abandoned] at step
          obtain ⟨rfl, rfl⟩ := Prod.mk.inj (Option.some.inj step)
          refine .goes player.stage _ rfl ⟨fun _ member => member, fun _ nothing => ?_⟩ (fun _ _ => ?_) rfl
          · cases nothing
          · exact Nat.le_of_not_lt fun before => abandoned (decide_eq_true before)

end Execution

theorem Player.with_mode_quiet (player : Player) (changed : ModeChange × Mode) :
    ∃ events outbox, player.withMode changed =
      { player with playback := { player.playback with mode := changed.2 }, events := events, outbox := outbox } := by
  obtain ⟨⟨skip, autoPlay, waiting⟩, mode⟩ := changed
  cases skip <;> cases autoPlay <;> cases waiting <;> exact ⟨_, _, rfl⟩

theorem Player.set_waiting_abandoned (player : Player) (waiting : Bool) :
    (player.setWaiting waiting).abandoned = player.abandoned := by
  have permitted : player.permitRollback.abandoned = player.abandoned := by
    rw [permitRollback]
    split <;> rfl
  rw [setWaiting]
  split
  · obtain ⟨_, _, same⟩ := player.permitRollback.with_mode_quiet (player.playback.mode.setWaiting waiting)
    rw [same]
    exact permitted
  · obtain ⟨_, _, same⟩ := player.with_mode_quiet (player.playback.mode.setWaiting waiting)
    rw [same]

namespace World

-- How a command that a move has changed comes to be there: it has gone on, or it was started.
inductive Changed (activity : Activity) (before after : Player) (execution : Execution) : Prop where
  | goes (old : Execution) (own : activity.execution? = some old) (same : execution.origin = old.origin)
      (nextId : after.executing.nextId = before.executing.nextId) (went : old.step? before = some (.going execution, after))
  | starts (ids : execution.id = before.executing.nextId ∧ after.executing.nextId = before.executing.nextId + 1)
      (parked : after.executing.parked = before.executing.parked)
      (launches : after.launches = execution.entry.announced :: before.launches)
      (new : execution.Launched after)

theorem step_changed {activity successor : Activity} {player after : Player} (told : player.outbox = [])
    (step : activity.step? player = some (successor, after)) (execution : Execution)
    (there : execution ∈ successor.execution?.toList ++ after.flights) : Changed activity player after execution := by
  cases step_books told step with
  | nothing _ _ _ only =>
      rw [only] at there
      cases there
  | starts started _ ids _ parked journal only new =>
      rw [only] at there
      obtain rfl := List.mem_singleton.mp there
      exact .starts ids parked journal.1 new
  | goes old now own kept _ only same went =>
      rw [only] at there
      obtain rfl := List.mem_singleton.mp there
      exact .goes old own same kept.nextId went
  | ends _ _ _ _ _ _ only =>
      rw [only] at there
      cases there

-- Commands that ask for input wait for nothing else, and as long as they are not given up, the last start is the one that
-- the input wait permits. The bare wait is over before anything else is started.
structure Marked (world : World) : Prop where
  tokens : ∀ execution ∈ world.executions, execution.token.full ≤ world.player.abandoned
  calm : ∀ execution ∈ world.executions, execution.command.kind.asks = true →
    execution.Calm ∧ execution.Upheld world.player ∧ execution.id ∉ world.player.executing.parked
  latest : ∀ execution ∈ world.executions, execution.command.kind.asks = true → execution.lane = .main →
    world.player.abandoned ≤ execution.token.full → world.player.latest? = world.player.starts.head?
  prompt : ∀ execution pilot epoch, .running execution (.pilot pilot epoch) ∈ world.activities →
    execution.command.kind = .waitInput → execution.id + 1 = world.player.executing.nextId

-- How a command comes to be there after a move: somebody else has it, or the move has changed it.
inductive Arises (world : World) (others : List Activity) (player : Player) (execution : Execution) : Prop where
  | held (other : Activity) (member : other ∈ others) (flies : other.execution? = some execution)
      (before : execution ∈ world.executions)
  | goes (old : Execution) (before : old ∈ world.executions) (same : execution.origin = old.origin)
      (went : old.step? world.player = some (.going execution, player))
  | starts (ids : execution.id = world.player.executing.nextId ∧
        player.executing.nextId = world.player.executing.nextId + 1)
      (parked : player.executing.parked = world.player.executing.parked)
      (launches : player.launches = execution.entry.announced :: world.player.launches)
      (new : execution.Launched player)

section Moves

variable {world next : World} {activity successor : Activity} {others : List Activity} {player : Player}

theorem executions_arise (told : world.player.outbox = []) (there : world.activities.Perm (activity :: others))
    (step : activity.step? world.player = some (successor, player))
    (activities : next.activities.Subperm (successor :: (others ++ player.spawns))) (execution : Execution)
    (under : execution ∈ next.executions) : Arises world others player execution := by
  rcases executions_within activities execution under with changed | ⟨other, member, flies⟩
  · cases step_changed told step execution changed with
    | goes old own same _ went => exact .goes old ((executions_before there old).mpr (.inl own)) same went
    | starts ids parked launches new => exact .starts ids parked launches new
  · exact .held other member flies ((executions_before there execution).mpr (.inr ⟨other, member, flies⟩))

theorem earlier_of_quiet {execution : Execution} (arises : Arises world others player execution)
    (quiet : player.launches = world.player.launches) : ∃ old ∈ world.executions, execution.origin = old.origin := by
  cases arises with
  | held _ _ _ before => exact ⟨execution, before, rfl⟩
  | goes old before same _ => exact ⟨old, before, same⟩
  | starts _ _ launches _ =>
      have longer := congrArg List.length (quiet.symm.trans launches)
      rw [List.length_cons] at longer
      omega

theorem idle_waits {other : Activity} {execution : Execution} (flies : other.execution? = some execution)
    (idle : other.isBusy = false) (begun : execution.begun = true) : execution.wait ≠ none := by
  intro nothing
  cases other with
  | running own caller =>
      obtain rfl : own = execution := Option.some.inj flies
      cases caller <;> simp [Activity.isBusy, begun, nothing] at idle
  | _ => cases flies

theorem drained_parked {executing : Executing} (drained : executing.drained none = true) (entry : Executing.Entry)
    (there : entry ∈ executing.entries) : entry.id ∈ executing.parked := by
  have parked := List.all_eq_true.mp drained entry there
  simpa using parked

section Marked

variable (marked : world.Marked) (step : activity.step? world.player = some (successor, player)) (execution : Execution)
  (arises : Arises world others player execution)
include marked step arises

theorem tokens_moves : execution.token.full ≤ player.abandoned := by
  have grown : world.player.abandoned ≤ player.abandoned := (activity.step_spares world.player _ step).abandons
  cases arises with
  | held _ _ _ before => exact Nat.le_trans (marked.tokens execution before) grown
  | goes old before same _ =>
      rw [(Execution.origin_same same).2.2.2]
      exact Nat.le_trans (marked.tokens old before) grown
  | starts _ _ _ new => exact new.full

theorem latest_moves (listed : world.Listed) (asks : execution.command.kind.asks = true) (main : execution.lane = .main)
    (upheld : player.abandoned ≤ execution.token.full) : player.latest? = player.starts.head? := by
  have grown : world.player.abandoned ≤ player.abandoned := (activity.step_spares world.player _ step).abandons
  cases step_marks activity world.player _ step with
  | captures latest => exact latest
  | same latest starts =>
      rw [show player.latest? = _ from latest, show player.starts = _ from starts]
      cases arises with
      | held _ _ _ before => exact marked.latest execution before asks main (Nat.le_trans grown upheld)
      | goes old before same _ =>
          obtain ⟨_, command, lane, token⟩ := Execution.origin_same same
          rw [command] at asks
          rw [lane] at main
          rw [token] at upheld
          exact marked.latest old before asks main (Nat.le_trans grown upheld)
      | starts _ _ launches _ =>
          -- a command of the main lane is not started without being written down
          have entry : execution.entry.announced = (execution.command.spot, .main) := by
            rw [← main]
            rfl
          rw [entry] at launches
          have longer := congrArg List.length ((Player.starts_of_main _ launches).symm.trans starts)
          rw [List.length_cons] at longer
          omega
  | abandons quiet raised =>
      obtain ⟨old, before, origin⟩ := earlier_of_quiet arises quiet
      rw [(Execution.origin_same origin).2.2.2] at upheld
      exact absurd raised (Nat.not_lt_of_le (Nat.le_trans upheld (marked.tokens old before)))
  | drains quiet drained =>
      obtain ⟨old, before, origin⟩ := earlier_of_quiet arises quiet
      rw [(Execution.origin_same origin).2.1] at asks
      exact absurd (drained_parked drained old.entry (listed.entered old before)) (marked.calm old before asks).2.2

theorem calm_moves (told : world.player.outbox = []) (there : world.activities.Perm (activity :: others)) (flight : world.InFlight) (listed : world.Listed)
    (alone : ∀ other ∈ others, other.isBusy = false) (asks : execution.command.kind.asks = true) :
    execution.Calm ∧ execution.Upheld player ∧ execution.id ∉ player.executing.parked := by
  cases arises with
  | held other member flies before =>
      obtain ⟨calm, _, unparked⟩ := marked.calm execution before asks
      refine ⟨calm, fun begun nothing => absurd nothing (idle_waits flies (alone other member) begun), ?_⟩
      cases step_aloft told step with
      | nothing same _ =>
          rw [same]
          exact unparked
      | starts spot lane _ same _ _ =>
          rw [same]
          exact unparked
      | goes own _ mine besides _ _ =>
          have apart := others_apart flight there own mine other member execution flies
          exact fun parked => unparked ((besides.parked execution.id apart).mp parked)
  | goes old before same went =>
      obtain ⟨id, command, _⟩ := Execution.origin_same same
      rw [command] at asks
      obtain ⟨calm, upheld, unparked⟩ := marked.calm old before asks
      rw [id]
      cases Execution.step_speaks asks calm upheld went with
      | ends _ _ ended _ => cases ended
      | goes stage next going still kept quiet =>
          obtain rfl := Execution.Progress.going.inj going
          subst quiet
          exact ⟨still, kept, unparked⟩
      | asks next going still kept _ _ raises =>
          obtain rfl := Execution.Progress.going.inj going
          rw [raises, (((Player.set_waiting_edits world.player true).spares rfl : Spares {} _ _).executing rfl).1]
          refine ⟨still, fun begun nothing => ?_, unparked⟩
          rw [Player.set_waiting_abandoned]
          exact kept begun nothing
  | starts ids parked _ new =>
      obtain ⟨calm, upheld⟩ := Execution.origin_calm new.origin player
      refine ⟨calm, upheld, fun member => ?_⟩
      rw [parked, ids.1] at member
      exact Nat.lt_irrefl _ (flight.tidy.below _ (listed.parked _ member))

end Marked

-- From its start on the bare wait is in the middle of its command, so that nobody else starts anything.
theorem prompt_moves (marked : world.Marked) (told : world.player.outbox = [])
    (there : world.activities.Perm (activity :: others)) (alone : ∀ other ∈ others, other.isBusy = false)
    (step : activity.step? world.player = some (successor, player))
    (activities : next.activities.Subperm (successor :: (others ++ player.spawns))) (execution : Execution) (pilot : Pilot)
    (epoch : Nat) (member : .running execution (.pilot pilot epoch) ∈ next.activities)
    (bare : execution.command.kind = .waitInput) : execution.id + 1 = player.executing.nextId := by
  have asks : execution.command.kind.asks = true := by rw [bare]; rfl
  rcases List.mem_cons.mp (activities.subset member) with own | member
  · have changed : execution ∈ successor.execution?.toList ++ player.flights := by
      rw [← own]
      exact List.mem_cons_self
    cases step_changed told step execution changed with
    | starts ids _ _ _ => rw [ids.1, ids.2]
    | goes old mine same nextId went =>
        obtain ⟨id, command, _⟩ := Execution.origin_same same
        cases activity with
        | running running caller =>
            obtain rfl : running = old := Option.some.inj mine
            have moved : (Activity.running running caller).step? world.player = some (.running execution caller, player) := by
              rw [Activity.step?, went]
              rfl
            have successors := congrArg Prod.fst (Option.some.inj (step.symm.trans moved))
            obtain ⟨_, rfl⟩ := Activity.running.inj (own.trans successors)
            rw [id, nextId]
            exact marked.prompt running pilot epoch (there.mem_iff.mpr List.mem_cons_self) (command ▸ bare)
        | _ => cases mine
  · rcases List.mem_append.mp member with old | spawned
    · have under : execution ∈ world.executions := (executions_before there execution).mpr (.inr ⟨_, old, rfl⟩)
      have calm := (marked.calm execution under asks).1
      have idle : execution.wait.isNone = false := alone _ old
      cases waits : execution.wait with
      | none =>
          rw [waits] at idle
          cases idle
      | some wait => exact absurd bare (calm.waits wait waits).1
    · have flies : execution ∈ player.flights := mem_flights spawned rfl
      cases step_changed told step execution (List.mem_append_right _ flies) with
      | starts ids _ _ _ => rw [ids.1, ids.2]
      | goes old _ _ _ went =>
          rw [(old.step_besides world.player _ player went).2, Player.flights, told] at flies
          cases flies

theorem marked_moves (flight : world.InFlight) (listed : world.Listed) (marked : world.Marked)
    (told : world.player.outbox = []) (there : world.activities.Perm (activity :: others))
    (alone : ∀ other ∈ others, other.isBusy = false) (step : activity.step? world.player = some (successor, player))
    (stage : List (Nat × String)) (same : next.player = { player with outbox := [], stage := stage })
    (activities : next.activities.Subperm (successor :: (others ++ player.spawns))) : next.Marked := by
  have arises := executions_arise told there step activities
  constructor
  · intro execution under
    rw [same]
    exact tokens_moves marked step execution (arises execution under)
  · intro execution under asks
    rw [same]
    exact calm_moves marked step execution (arises execution under) told there flight listed alone asks
  · intro execution under asks main upheld
    rw [same] at upheld
    have latest := latest_moves marked step execution (arises execution under) listed asks main upheld
    rw [same]
    exact latest
  · intro execution pilot epoch member bare
    rw [same]
    exact prompt_moves marked told there alone step activities execution pilot epoch member bare

end Moves

theorem move_marked (world : World) (move : Move) (numbered : world.Numbered) (flight : world.InFlight)
    (listed : world.Listed) (marked : world.Marked) (allowed : world.Allows move) : (world.move move).Marked := by
  cases (move_comes world numbered move).1 with
  | moves activity successor others player stage _ there alone step told activities =>
      exact marked_moves flight listed marked numbered.told there (alone allowed) step stage told activities
  | stays clock requests player activities =>
      have earlier := executions_stay activities
      obtain ⟨tokens, calm, latest, prompt⟩ := marked
      constructor
      · intro execution under
        rw [player]
        exact tokens execution (earlier execution under)
      · intro execution under asks
        rw [player]
        exact calm execution (earlier execution under) asks
      · intro execution under asks main upheld
        rw [player] at upheld ⊢
        exact latest execution (earlier execution under) asks main upheld
      · intro execution pilot epoch member bare
        rw [player]
        rcases asked_or_before activities member with ⟨request, asked⟩ | old
        · cases asked
        · exact prompt execution pilot epoch old bare

theorem fresh_marked (world : World) (fresh : world.Fresh) : world.Marked := by
  have nothing := fresh_executions world fresh
  constructor
  · intro execution under
    rw [nothing] at under
    cases under
  · intro execution under
    rw [nothing] at under
    cases under
  · intro execution under
    rw [nothing] at under
    cases under
  · intro execution pilot epoch member
    rw [fresh.nobody] at member
    cases member

theorem marked_after (start : World) (fresh : start.Fresh) (moves : List Move) (orderly : start.Orderly moves) :
    (start.after moves).InFlight ∧ (start.after moves).Listed ∧ (start.after moves).Marked := by
  have holds := after_orderly (fun world => world.InFlight ∧ world.Listed ∧ world.Marked)
    (fun world move numbered ⟨flight, listed, marked⟩ allowed =>
      ⟨in_flight_after world numbered flight [move], move_listed world numbered move flight listed,
        move_marked world move numbered flight listed marked allowed⟩)
    start fresh.numbered ⟨fresh_in_flight start fresh, fresh_listed start fresh, fresh_marked start fresh⟩ moves orderly
  exact holds.2

end World

/-! ### Raising the input wait -/

-- The command that a pilot waits for.
def Activity.awaited? : Activity → Option Execution
  | .running execution (.pilot _ _) => some execution
  | _ => none

theorem Activity.awaited_by (activity : Activity) (execution : Execution) (awaited : activity.awaited? = some execution) :
    ∃ pilot epoch, activity = .running execution (.pilot pilot epoch) := by
  cases activity with
  | running own caller =>
      cases caller with
      | pilot pilot epoch =>
          obtain rfl : own = execution := Option.some.inj awaited
          exact ⟨pilot, epoch, rfl⟩
      | _ => cases awaited
  | _ => cases awaited

namespace Player

variable (player : Player)

theorem set_waiting_permits (off : player.playback.mode.waiting = false)
    (raised : (player.setWaiting true).playback.mode.waiting = true) :
    (player.setWaiting true).history = player.permitRollback.history := by
  have turned (skips : player.playback.mode.skip = false) : (player.playback.mode.setWaiting true).1.waiting = some true := by
    simp only [Mode.setWaiting, skips, off]
    rfl
  cases skips : player.playback.mode.skip with
  | true =>
      have still : player.playback.mode.setWaiting true = ({}, player.playback.mode) := by
        rw [Mode.setWaiting, skips]
        rfl
      rw [setWaiting, still] at raised
      simp only [with_mode_playback] at raised
      exact absurd (raised.symm.trans off) nofun
  | false =>
      simp only [setWaiting, turned skips, if_true]
      obtain ⟨_, _, same⟩ := player.permitRollback.with_mode_quiet (player.playback.mode.setWaiting true)
      rw [same]

theorem finish_playback (execution : Execution) (result : Except Error Unit) :
    (player.finish execution result).2.playback = player.playback := by
  cases result with
  | ok done => rfl
  | error cause =>
      simp only [finish]
      split
      · rfl
      · split <;> rfl

theorem resume_pilot_waiting (pilot : Pilot) (epoch : Nat) (result : Except Error Unit) :
    (player.resumeCaller (.pilot pilot epoch) result).2.playback.mode.waiting = player.playback.mode.waiting := by
  cases result with
  | ok done =>
      rw [resumeCaller, after_visit_player, settle]
      split <;> rfl
  | error cause =>
      simp only [resumeCaller, fail]
      cases pilot with
      | loop generation =>
          simp only [halt, stopLoop, stopFor]
          split
          · split <;> rfl
          · rfl
      | trip trip =>
          simp only [disembark]
          split
          · rfl
          · exact congrArg (fun playback => playback.mode.waiting) (with_mode_playback player player.playback.mode.disableSkip)

end Player

theorem pilot_raises {execution : Execution} {pilot : Pilot} {epoch : Nat} {player : Player} {successor : Activity}
    {after : Player} (asks : execution.command.kind.asks = true) (calm : execution.Calm) (upheld : execution.Upheld player)
    (step : (Activity.running execution (.pilot pilot epoch)).step? player = some (successor, after))
    (off : player.playback.mode.waiting = false) (raised : after.playback.mode.waiting = true) :
    (execution.begun = true ∧ execution.wait = none) ∧ execution.lane = .main ∧ after = player.setWaiting true := by
  obtain ⟨⟨progress, between⟩, went, rest⟩ := Option.map_eq_some_iff.mp step
  cases Execution.step_speaks asks calm upheld went with
  | ends stage result ended quiet =>
      subst ended quiet
      have moved : ({ player with stage := stage }.finish execution result).2.resumeCaller (.pilot pilot epoch)
          ({ player with stage := stage }.finish execution result).1 = (successor, after) := rest
      have resumed := Player.resume_pilot_waiting ({ player with stage := stage }.finish execution result).2 pilot epoch
        ({ player with stage := stage }.finish execution result).1
      rw [moved, Player.finish_playback] at resumed
      exact absurd (raised.symm.trans (resumed.trans off)) nofun
  | goes stage next going _ _ quiet =>
      subst going quiet
      obtain ⟨rfl, rfl⟩ := Prod.mk.inj rest
      exact absurd (raised.symm.trans off) nofun
  | asks next going _ _ ready main raises =>
      subst going
      obtain ⟨rfl, rfl⟩ := Prod.mk.inj rest
      exact ⟨ready, main, raises⟩

namespace World

-- Commands of the main lane that were started after the one in flight, newest first. Commands are numbered in the order in
-- which they are started.
def startedSince (world : World) (execution : Execution) : List Spot :=
  (world.player.launches.take (world.player.executing.nextId - (execution.id + 1))).filterMap Player.mainSpot?

theorem starts_since (world : World) (listed : world.Listed) (execution : Execution) (under : execution ∈ world.executions)
    (main : execution.lane = .main) :
    world.player.starts.head? = some ((world.startedSince execution).head?.getD execution.command.spot) := by
  have ranked := listed.ranked execution under
  obtain ⟨bound, here⟩ := List.getElem?_eq_some_iff.mp ranked
  have own : Player.mainSpot? execution.entry.announced = some execution.command.spot := if_pos main
  have split : world.player.starts = world.startedSince execution ++ execution.command.spot ::
      (world.player.launches.drop (world.player.executing.nextId - (execution.id + 1) + 1)).filterMap Player.mainSpot? := by
    rw [startedSince, ← List.filterMap_cons_some own, ← List.filterMap_append, ← here, ← List.drop_eq_getElem_cons bound,
      List.take_append_drop, Player.starts]
  rw [split]
  cases world.startedSince execution with
  | nil => rfl
  | cons newest older => rfl

theorem mover_mem {world : World} {move : Move} {activity : Activity} (mover : world.mover? move = some activity) :
    activity ∈ world.activities := by
  cases move with
  | thread id =>
      obtain ⟨thread, found, rfl⟩ := Option.map_eq_some_iff.mp mover
      exact List.mem_append_left _ (List.mem_map_of_mem (List.mem_of_find?_eq_some found))
  | front => exact List.mem_append_right _ (Option.mem_toList.mpr mover)
  | _ => cases mover

section Raise

variable (world : World) (marked : world.Marked) (move : Move) (execution : Execution)
  (awaited : (world.mover? move).bind Activity.awaited? = some execution)
include marked awaited

theorem raise_permits (numbered : world.Numbered) (listed : world.Listed) (asks : execution.command.kind.asks = true)
    (off : world.player.playback.mode.waiting = false) (raised : (world.move move).player.playback.mode.waiting = true) :
    ∃ snapshot, (world.move move).player.history.snapshots.getLast? = some snapshot ∧ snapshot.permitted = true ∧
      snapshot.spot = (world.startedSince execution).head?.getD execution.command.spot := by
  obtain ⟨own, mover, awaited⟩ := Option.bind_eq_some_iff.mp awaited
  obtain ⟨pilot, epoch, rfl⟩ := own.awaited_by execution awaited
  cases (move_comes world numbered move).1 with
  | stays clock requests player _ =>
      rw [player] at raised
      exact absurd (raised.symm.trans off) nofun
  | moves activity successor others player stage moves there _ step told _ =>
      obtain rfl := Option.some.inj (mover.symm.trans moves)
      rw [told] at raised ⊢
      have under : execution ∈ world.executions := (executions_before there execution).mpr (.inl rfl)
      obtain ⟨calm, upheld, _⟩ := marked.calm execution under asks
      obtain ⟨ready, main, rfl⟩ := pilot_raises asks calm upheld step off raised
      have latest := marked.latest execution under asks main (upheld ready.1 ready.2)
      rw [starts_since world listed execution under main] at latest
      have permits := Player.set_waiting_permits world.player off raised
      exact permits ▸ Player.permit_rollback_newest world.player _ latest

theorem bare_wait_prompt (bare : execution.command.kind = .waitInput) : world.startedSince execution = [] := by
  obtain ⟨own, mover, awaited⟩ := Option.bind_eq_some_iff.mp awaited
  obtain ⟨pilot, epoch, rfl⟩ := own.awaited_by execution awaited
  rw [startedSince, marked.prompt execution pilot epoch (mover_mem mover) bare, Nat.sub_self]
  rfl

end Raise

end World

end Storyline
