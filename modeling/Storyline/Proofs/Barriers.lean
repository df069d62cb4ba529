import Storyline.Proofs.Gathering

set_option autoImplicit false

/-!
Barriers. An await block waits at its end until it is alone, but for commands that take part in a rendezvous. A command of a
built-in kind comes to a rendezvous only by a transition, or by a barrier that is instant; and whoever leads a rendezvous
releases all barriers. So a barrier that passes undisturbed has every other built-in command behind it, transitions apart.
-/

namespace Storyline

/-! ### Commands that never gather -/

-- Effects that lead to a rendezvous.
def Effect.gathers : Effect → Bool
  | .barrier | .awaitOthers | .completeOthers | .transition _ => true
  | _ => false

def Kind.isPlain : Kind → Bool
  | .await | .transition _ | .custom _ => false
  | _ => true

-- Built-in kinds other than transitions.
def Kind.isSteady : Kind → Bool
  | .transition _ | .custom _ => false
  | _ => true

theorem Kind.steady_cases (kind : Kind) (steady : kind.isSteady = true) : kind = .await ∨ kind.isPlain = true := by
  cases kind with
  | await => exact .inl rfl
  | transition _ | custom _ => cases steady
  | _ => exact .inr rfl

theorem Kind.plain_effects (kind : Kind) (plain : kind.isPlain = true) (effect : Effect) (member : effect ∈ kind.effects) :
    effect.gathers = false := by
  cases kind with
  | await | transition _ | custom _ => cases plain
  | print line =>
      rcases List.mem_cons.mp member with rfl | asks
      · rfl
      · split at asks
        · obtain rfl := List.mem_singleton.mp asks
          rfl
        · cases asks
  | label _ | branch _ | elseBranch _ | otherwise | endBranch | loop _ | random _ | group => cases member
  | _ =>
      obtain rfl := List.mem_singleton.mp member
      rfl

namespace Execution

structure Plain (execution : Execution) : Prop where
  effects : ∀ effect ∈ execution.effects, effect.gathers = false
  idle : execution.role? = none

theorem perform_remains (execution next : Execution) (effect : Effect) (player : Player) (mild : effect.gathers = false)
    (going : (execution.perform effect player).1 = .going next) : next.effects = execution.effects := by
  obtain ⟨_, _, _, extra, pushed, effects⟩ := perform_going going
  have nothing : extra = [] := by
    cases effect with
    | barrier | awaitOthers | completeOthers | transition _ => cases mild
    | _ => exact List.mem_singleton.mp pushed
  rw [effects, nothing, List.nil_append]

-- What a command can do next: it wakes, it begins or is given up before that, it does the first of its effects, or it is over.
inductive Steps (execution : Execution) (player : Player) (progress : Progress) (after : Player) : Prop where
  | wakes (wait : Wait) (woken : Except Error Unit × Player) (waits : execution.wait = some wait)
      (wakes : execution.wake? wait player = some woken)
      (moved : { execution with wait := none }.unlessFailed woken = (progress, after))
  | gives (awake : execution.wait = none) (unbegun : execution.begun = false)
      (given : player.isAbandoned execution.token.full = true) (same : after = player)
      (ended : progress = .ended (.error (.cancelled execution.command.name)))
  | begins (awake : execution.wait = none) (unbegun : execution.begun = false) (same : after = player)
      (going : progress = .going { execution with begun := true, effects := execution.command.kind.effects })
  | does (effect : Effect) (rest : List Effect) (awake : execution.wait = none) (begun : execution.begun = true)
      (effects : execution.effects = effect :: rest)
      (moved : { execution with effects := rest }.perform effect player = (progress, after))
  | ends (awake : execution.wait = none) (begun : execution.begun = true) (effects : execution.effects = [])
      (same : after = player) (ended : progress = .ended (.ok ()))

theorem step_steps (execution : Execution) (player : Player) (progress : Progress) (after : Player)
    (step : execution.step? player = some (progress, after)) : execution.Steps player progress after := by
  obtain ⟨id, loaded, index, command, lane, token, begun, effects, wait⟩ := execution
  cases wait with
  | some wait =>
      obtain ⟨woken, wakes, moved⟩ := Option.map_eq_some_iff.mp step
      exact .wakes wait woken rfl wakes moved
  | none =>
      cases begun with
      | false =>
          cases given : player.isAbandoned token.full with
          | true =>
              simp only [step?, given, Bool.false_eq_true, if_false, if_true] at step
              obtain ⟨rfl, rfl⟩ := Prod.mk.inj (Option.some.inj step)
              exact .gives rfl rfl given rfl rfl
          | false =>
              simp only [step?, given, Bool.false_eq_true, if_false] at step
              obtain ⟨rfl, rfl⟩ := Prod.mk.inj (Option.some.inj step)
              exact .begins rfl rfl rfl rfl
      | true =>
          cases effects with
          | nil =>
              obtain ⟨rfl, rfl⟩ := Prod.mk.inj (Option.some.inj step)
              exact .ends rfl rfl rfl rfl rfl
          | cons effect rest => exact .does effect rest rfl rfl rfl (Option.some.inj step)

theorem step_plain (execution next : Execution) (player after : Player) (kind : execution.command.kind.isPlain = true)
    (plain : execution.Plain) (step : execution.step? player = some (.going next, after)) : next.Plain := by
  cases step_steps execution player _ after step with
  | wakes wait woken waits wakes moved =>
      obtain rfl := unless_failed_going _ next _ (congrArg Prod.fst moved)
      exact ⟨plain.effects, rfl⟩
  | gives _ _ _ _ ended => cases ended
  | begins awake _ _ going =>
      obtain rfl := Progress.going.inj going
      exact ⟨execution.command.kind.plain_effects kind, role_awake awake⟩
  | does effect rest awake begun effects moved =>
      have mild : effect.gathers = false := plain.effects effect (effects ▸ List.mem_cons_self)
      have still : effect.reach.meets = false := by
        cases effect with
        | completeOthers => cases mild
        | _ => rfl
      have remains := perform_remains { execution with effects := rest } next effect player mild (congrArg Prod.fst moved)
      refine ⟨fun other member => plain.effects other ?_, ?_⟩
      · rw [remains] at member
        rw [effects]
        exact List.mem_cons_of_mem _ member
      · have apart := perform_apart { execution with effects := rest } effect player awake still
        rw [moved] at apart
        exact apart
  | ends _ _ _ _ ended => cases ended

/-! ### At the barrier -/

-- Where an await block is on its way. The last three are in the middle of the command, where nobody else moves: a block that
-- is instant finds no rendezvous in progress, and one that has passed undisturbed is alone, unless its body is to come.
inductive Bars (execution : Execution) (player : Player) : Prop where
  | unbegun (awake : execution.wait = none) (unbegun : execution.begun = false)
  | waits (waiting : execution.wait = some (.barrier execution.token)) (begun : execution.begun = true)
      (effects : execution.effects = [])
  | leads (waiting : execution.wait = some (.rendezvous .leader)) (begun : execution.begun = true)
      (effects : execution.effects = [])
  | comes (awake : execution.wait = none) (begun : execution.begun = true)
      (effects : execution.effects = [.barrier] ∨ execution.effects = [.awaitOthers])
  | urges (awake : execution.wait = none) (begun : execution.begun = true) (effects : execution.effects = [.completeOthers])
      (free : player.rendezvous.inProgress = false)
  | passed (awake : execution.wait = none) (begun : execution.begun = true) (effects : execution.effects = [])
      (alone : player.interrupt? execution.token = none →
        (player.isReturnVisit execution.loaded execution.index = false ∧
          execution.loaded.playlist.enters execution.index = true) ∨
        player.executing.drained (some execution.id) = true)

-- Whoever was launched before and is not cancelled finds no rendezvous in progress.
theorem free_of_upheld (player : Player) (token : Token) (older : token.completion ≤ player.rendezvous.generation)
    (upheld : player.isCompleting token = false) : player.rendezvous.inProgress = false := by
  have quiet : player.rendezvous.raised token.completion = false := upheld
  simp only [Rendezvous.raised, Bool.or_eq_false_iff, decide_eq_false_iff_not, Bool.and_eq_false_iff] at quiet
  obtain ⟨current, other | free⟩ := quiet
  · omega
  · exact free

theorem wake_barrier (execution : Execution) (token : Token) (player : Player) (result : Except Error Unit) (after : Player)
    (wakes : execution.wake? (.barrier token) player = some (result, after)) (upheld : after.interrupt? token = none) :
    after.executing.drained (some execution.id) = true := by
  simp only [wake?] at wakes
  cases interrupt : player.interrupt? token with
  | none =>
      cases drained : player.executing.drained (some execution.id) with
      | true =>
          simp only [interrupt, drained, Ending.of?, if_true] at wakes
          obtain ⟨_, rfl⟩ := Prod.mk.inj (Option.some.inj wakes)
          exact drained
      | false =>
          simp only [interrupt, drained, Ending.of?, Bool.false_eq_true, if_false] at wakes
          cases wakes
  | some kind =>
      cases kind with
      | aborted =>
          simp only [interrupt, Ending.of?] at wakes
          obtain ⟨_, rfl⟩ := Prod.mk.inj (Option.some.inj wakes)
          rw [interrupt] at upheld
          cases upheld
      | completed =>
          simp only [interrupt, Ending.of?] at wakes
          obtain ⟨_, rfl⟩ := Prod.mk.inj (Option.some.inj wakes)
          rw [show (player.warn _).interrupt? token = player.interrupt? token from rfl, interrupt] at upheld
          cases upheld

theorem wake_leader (execution : Execution) (token : Token) (player : Player) (result : Except Error Unit) (after : Player)
    (older : token.completion ≤ player.rendezvous.generation)
    (wakes : execution.wake? (.rendezvous .leader) player = some (result, after)) : after.interrupt? token ≠ none := by
  intro upheld
  obtain ⟨left, leaves, same⟩ := Option.map_eq_some_iff.mp wakes
  obtain ⟨_, rfl⟩ := Prod.mk.inj same
  have quiet := ((left.interrupt_none token).mp upheld).2
  cases player.leave_attends .leader _ left leaves with
  | concludes _ _ rendezvous =>
      rw [rendezvous] at quiet
      have later : player.rendezvous.conclude.2.generation = player.rendezvous.generation + 1 := rfl
      simp only [Rendezvous.raised, later, Bool.or_eq_false_iff, decide_eq_false_iff_not] at quiet
      omega
  | apart idle => cases idle
  | enters _ idle => cases idle
  | leaves _ follows => cases follows

section Place

variable {execution : Execution} {player : Player} (bars : execution.Bars player)
include bars

theorem Bars.waiting {wait : Wait} (waits : execution.wait = some wait) :
    (wait = .barrier execution.token ∨ wait = .rendezvous .leader) ∧ execution.begun = true ∧ execution.effects = [] := by
  cases bars with
  | waits waiting begun effects => exact ⟨.inl (Option.some.inj (waits.symm.trans waiting)), begun, effects⟩
  | leads waiting begun effects => exact ⟨.inr (Option.some.inj (waits.symm.trans waiting)), begun, effects⟩
  | unbegun awake | comes awake | urges awake | passed awake => cases awake.symm.trans waits

theorem Bars.doing (awake : execution.wait = none) (begun : execution.begun = true) {effect : Effect} {rest : List Effect}
    (effects : execution.effects = effect :: rest) :
    rest = [] ∧ (effect = .barrier ∨ effect = .awaitOthers ∨ effect = .completeOthers ∧ player.rendezvous.inProgress = false) := by
  cases bars with
  | comes _ _ either =>
      rw [effects] at either
      rcases either with here | here
      · obtain ⟨rfl, rfl⟩ := List.cons.inj here
        exact ⟨rfl, .inl rfl⟩
      · obtain ⟨rfl, rfl⟩ := List.cons.inj here
        exact ⟨rfl, .inr (.inl rfl)⟩
  | urges _ _ urges free =>
      obtain ⟨rfl, rfl⟩ := List.cons.inj (effects.symm.trans urges)
      exact ⟨rfl, .inr (.inr ⟨rfl, free⟩)⟩
  | unbegun _ unbegun => cases unbegun.symm.trans begun
  | waits waiting | leads waiting => cases awake.symm.trans waiting
  | passed _ _ over_ => cases effects.symm.trans over_

theorem Bars.done (awake : execution.wait = none) (begun : execution.begun = true) (effects : execution.effects = [])
    (upheld : player.interrupt? execution.token = none) :
    (player.isReturnVisit execution.loaded execution.index = false ∧
        execution.loaded.playlist.enters execution.index = true) ∨
      player.executing.drained (some execution.id) = true := by
  cases bars with
  | passed _ _ _ alone => exact alone upheld
  | comes _ _ either => rw [effects] at either; rcases either with here | here <;> cases here
  | urges _ _ urges => cases effects.symm.trans urges
  | unbegun _ unbegun => cases unbegun.symm.trans begun
  | waits waiting | leads waiting => cases awake.symm.trans waiting

end Place

theorem step_bars (execution next : Execution) (player after : Player) (kind : execution.command.kind = .await)
    (older : execution.token.completion ≤ player.rendezvous.generation) (bars : execution.Bars player)
    (step : execution.step? player = some (.going next, after)) : next.Bars after := by
  cases step_steps execution player _ after step with
  | wakes wait woken waits wakes moved =>
      obtain rfl := unless_failed_going _ next _ (congrArg Prod.fst moved)
      obtain rfl : woken.2 = after := by rw [← unless_failed_player, moved]
      obtain ⟨rfl | rfl, begun, effects⟩ := bars.waiting waits
      · exact .passed rfl begun effects fun upheld => .inr (wake_barrier execution _ player _ _ wakes upheld)
      · exact .passed rfl begun effects fun upheld => absurd upheld (wake_leader execution _ player _ _ older wakes)
  | gives _ _ _ _ ended => cases ended
  | begins awake _ same going =>
      obtain rfl := Progress.going.inj going
      refine .comes awake rfl (.inl ?_)
      rw [kind]
      rfl
  | does effect rest awake begun effects moved =>
      obtain ⟨rfl, rfl | rfl | ⟨rfl, free⟩⟩ := bars.doing awake begun effects
      · simp only [perform] at moved
        split at moved
        · obtain ⟨going, rfl⟩ := Prod.mk.inj moved
          obtain rfl := Progress.going.inj going
          exact .comes awake begun (.inr rfl)
        · next body =>
            obtain ⟨going, rfl⟩ := Prod.mk.inj moved
            obtain rfl := Progress.going.inj going
            refine .passed awake begun rfl fun _ => .inl ?_
            simpa using body
      · simp only [perform] at moved
        split at moved
        · next completing =>
            obtain ⟨going, rfl⟩ := Prod.mk.inj moved
            obtain rfl := Progress.going.inj going
            refine .passed awake begun rfl fun upheld => ?_
            have quiet := ((player.interrupt_none _).mp upheld).2
            rw [show player.rendezvous.raised _ = true from completing] at quiet
            cases quiet
        · next upheld =>
            split at moved
            · obtain ⟨going, rfl⟩ := Prod.mk.inj moved
              obtain rfl := Progress.going.inj going
              exact .urges awake begun rfl (free_of_upheld player _ older (Bool.eq_false_iff.mpr upheld))
            · obtain ⟨going, rfl⟩ := Prod.mk.inj moved
              obtain rfl := Progress.going.inj going
              exact .waits rfl begun rfl
      · have leader : (player.enterRendezvous none (some execution.id)).1 = .leader := by
          rw [(player.enter_rendezvous_eq none (some execution.id)).1, Rendezvous.enter, free]
          rfl
        obtain ⟨going, rfl⟩ := Prod.mk.inj moved
        obtain rfl := Progress.going.inj going
        exact .leads (congrArg (fun role => some (Wait.rendezvous role)) leader) begun rfl
  | ends _ _ _ _ ended => cases ended

theorem Bars.beside {execution : Execution} {player : Player} (bars : execution.Bars player) {activity : Activity}
    (flies : activity.execution? = some execution) (idle : activity.isBusy = false) (other : Player) :
    execution.Bars other := by
  cases bars with
  | unbegun awake unbegun => exact .unbegun awake unbegun
  | waits waiting begun effects => exact .waits waiting begun effects
  | leads waiting begun effects => exact .leads waiting begun effects
  | comes awake begun => exact absurd awake (World.idle_waits flies idle begun)
  | urges awake begun => exact absurd awake (World.idle_waits flies idle begun)
  | passed awake begun => exact absurd awake (World.idle_waits flies idle begun)

theorem Bars.told {execution : Execution} {player : Player} (bars : execution.Bars player) (clock : Nat)
    (outbox : List Notice) (stage : List (Nat × String)) :
    execution.Bars { player with clock := clock, outbox := outbox, stage := stage } := by
  cases bars with
  | unbegun awake unbegun => exact .unbegun awake unbegun
  | waits waiting begun effects => exact .waits waiting begun effects
  | leads waiting begun effects => exact .leads waiting begun effects
  | comes awake begun effects => exact .comes awake begun effects
  | urges awake begun effects free => exact .urges awake begun effects free
  | passed awake begun effects alone => exact .passed awake begun effects alone

end Execution

namespace World

structure Fenced (world : World) : Prop where
  bars : ∀ execution ∈ world.executions, execution.command.kind = .await → execution.Bars world.player
  plain : ∀ execution ∈ world.executions, execution.command.kind.isPlain = true → execution.Plain

section Moves

variable {world next : World} {activity successor : Activity} {others : List Activity} {player : Player}

theorem kind_same {execution old : Execution} (same : execution.origin = old.origin) :
    execution.command.kind = old.command.kind := by
  have command := congrArg Execution.command same
  exact congrArg Command.kind command

theorem bars_moves (fenced : world.Fenced) (layered : world.Layered) (alone : ∀ other ∈ others, other.isBusy = false)
    (execution : Execution) (arises : Arises world others player execution) (awaits : execution.command.kind = .await) :
    execution.Bars player := by
  cases arises with
  | held other member flies before =>
      exact (fenced.bars execution before awaits).beside flies (alone other member) player
  | goes old before same went =>
      have kind := (kind_same same).symm.trans awaits
      exact old.step_bars execution world.player player kind (layered.tokens old before).2 (fenced.bars old before kind) went
  | starts _ _ _ new =>
      rw [← new.origin]
      exact .unbegun rfl rfl

theorem plain_moves (fenced : world.Fenced) (execution : Execution) (arises : Arises world others player execution)
    (plain : execution.command.kind.isPlain = true) : execution.Plain := by
  cases arises with
  | held _ _ _ before => exact fenced.plain execution before plain
  | goes old before same went =>
      have kind : old.command.kind.isPlain = true := kind_same same ▸ plain
      exact old.step_plain execution world.player player kind (fenced.plain old before kind) went
  | starts _ _ _ new =>
      rw [← new.origin]
      exact ⟨fun _ none_left => absurd none_left List.not_mem_nil, rfl⟩

end Moves

theorem move_fenced (world : World) (numbered : world.Numbered) (layered : world.Layered) (fenced : world.Fenced) (move : Move)
    (allowed : world.Allows move) : (world.move move).Fenced := by
  cases (move_comes world numbered move).1 with
  | stays clock requests player activities =>
      refine ⟨fun execution under awaits => ?_, fun execution under plain => ?_⟩
      · rw [player]
        exact (fenced.bars execution (executions_stay activities execution under) awaits).told clock _ _
      · exact fenced.plain execution (executions_stay activities execution under) plain
  | moves activity successor others player stage _ there alone step told activities =>
      have arises := executions_arise numbered.told there step activities
      refine ⟨fun execution under awaits => ?_, fun execution under plain => ?_⟩
      · rw [told]
        exact (bars_moves fenced layered (alone allowed) execution (arises execution under) awaits).told _ _ _
      · exact plain_moves fenced execution (arises execution under) plain

theorem fenced_after (start : World) (fresh : start.Fresh) (moves : List Move) (orderly : start.Orderly moves) :
    (start.after moves).Fenced ∧ (start.after moves).Layered := by
  have nobody := fresh.nobody
  have nothing := fresh_executions start fresh
  have fenced : start.Fenced := ⟨by simp [nothing], by simp [nothing]⟩
  have layered : start.Layered := ⟨by simp [nobody], by simp [nothing]⟩
  obtain ⟨_, kept⟩ := after_orderly (fun world => world.Fenced ∧ world.Layered)
    (fun world move numbered both allowed =>
      ⟨move_fenced world numbered both.2 both.1 move allowed, move_layered world numbered both.2 move⟩)
    start fresh.numbered ⟨fenced, layered⟩ moves orderly
  exact kept

end World

/-! ### What is behind a barrier -/

def Kind.isAwait : Kind → Bool
  | .await => true
  | _ => false

def Execution.Progress.isEnded : Execution.Progress → Bool
  | .ended _ => true
  | .going _ => false

def Caller.awaits : Caller → Bool
  | .nobody => false
  | _ => true

-- An await block that ends with its next step: it comes back to the block, or has no body to come to, and no completion or
-- cancellation has reached it.
def Execution.passes (host : Execution) (player : Player) : Bool :=
  host.command.kind.isAwait && ((host.step? player).map Prod.fst).any Execution.Progress.isEnded &&
    (player.interrupt? host.token).isNone &&
    (player.isReturnVisit host.loaded host.index || !host.loaded.playlist.enters host.index)

theorem Execution.passes_iff (host : Execution) (player : Player) :
    host.passes player = true ↔ host.command.kind = .await ∧
      (∃ result after, host.step? player = some (.ended result, after)) ∧ player.interrupt? host.token = none ∧
      (player.isReturnVisit host.loaded host.index = true ∨ host.loaded.playlist.enters host.index = false) := by
  have await : host.command.kind.isAwait = true ↔ host.command.kind = .await := by
    cases host.command.kind <;> simp [Kind.isAwait]
  have ends : ((host.step? player).map Prod.fst).any Execution.Progress.isEnded = true ↔
      ∃ result after, host.step? player = some (.ended result, after) := by
    constructor
    · intro ended
      obtain ⟨progress, moved, ended⟩ := (Option.any_eq_true _ _).mp ended
      obtain ⟨⟨progress, after⟩, step, rfl⟩ := Option.map_eq_some_iff.mp moved
      cases progress with
      | ended result => exact ⟨result, after, step⟩
      | going next => cases ended
    · rintro ⟨result, after, step⟩
      rw [step]
      rfl
  simp only [Execution.passes, Bool.and_eq_true, Bool.or_eq_true, Bool.not_eq_true', Option.isNone_iff_eq_none, await, ends,
    and_assoc]

def Activity.passes (player : Player) : Activity → Bool
  | .running host caller => caller.awaits && host.passes player
  | _ => false

theorem Activity.passes_running (activity : Activity) (player : Player) (passes : activity.passes player = true) :
    ∃ host caller, activity = .running host caller ∧ caller.awaits = true ∧ host.passes player = true := by
  cases activity with
  | running host caller => exact ⟨host, caller, rfl, (Bool.and_eq_true_iff.mp passes)⟩
  | _ => cases passes

namespace World

theorem end_alone (host : Execution) (player : Player) (result : Except Error Unit) (after : Player)
    (bars : host.Bars player) (step : host.step? player = some (.ended result, after))
    (undisturbed : player.interrupt? host.token = none)
    (bodiless : player.isReturnVisit host.loaded host.index = true ∨ host.loaded.playlist.enters host.index = false) :
    player.executing.drained (some host.id) = true := by
  obtain ⟨upheld, quiet⟩ := (player.interrupt_none host.token).mp undisturbed
  cases host.step_steps player _ after step with
  | wakes wait woken waits wakes moved =>
      obtain ⟨result, between⟩ := woken
      obtain ⟨rfl | rfl, _⟩ := bars.waiting waits
      · cases drained : player.executing.drained (some host.id) with
        | true => rfl
        | false =>
            simp only [Execution.wake?, undisturbed, drained, Ending.of?, Bool.false_eq_true, if_false] at wakes
            cases wakes
      · obtain ⟨left, _, same⟩ := Option.map_eq_some_iff.mp wakes
        obtain ⟨rfl, _⟩ := Prod.mk.inj same
        cases moved
  | gives _ _ given => exact absurd (of_decide_eq_true given) upheld
  | begins _ _ _ going => cases going
  | does effect rest awake begun effects moved =>
      -- nothing that it has still to do ends the command
      obtain ⟨rfl, rfl | rfl | ⟨rfl, _⟩⟩ := bars.doing awake begun effects
      · simp only [Execution.perform] at moved
        split at moved <;> cases moved
      · simp only [Execution.perform] at moved
        split at moved
        · cases moved
        · split at moved <;> cases moved
      · cases moved
  | ends awake begun effects =>
      rcases bars.done awake begun effects undisturbed with ⟨first, enters⟩ | drained
      · rcases bodiless with again | empty
        · cases first.symm.trans again
        · cases enters.symm.trans empty
      · exact drained

section Behind

variable {world : World} (gathered : world.Gathered) (layered : world.Layered) (fenced : world.Fenced)
include gathered layered fenced

theorem parked_unsteady (host other : Execution) (under : host ∈ world.executions)
    (undisturbed : world.player.interrupt? host.token = none) (also : other ∈ world.executions)
    (parked : other.id ∈ world.player.executing.parked) : other.command.kind.isSteady = false := by
  have quiet := ((world.player.interrupt_none host.token).mp undisturbed).2
  have free := Execution.free_of_upheld world.player host.token (layered.tokens host under).2 quiet
  have takes := gathered.parked other also parked
  by_contra steady
  rcases other.command.kind.steady_cases (Bool.eq_true_of_not_eq_false steady) with awaits | plain
  · -- an await block that is parked leads the rendezvous
    have leads : other.role? = some .leader := by
      cases fenced.bars other also awaits with
      | leads waiting => rw [Execution.role?, waiting]
      | waits waiting => rw [Execution.role?, waiting] at takes; cases takes
      | unbegun awake => rw [Execution.role_awake awake] at takes; cases takes
      | comes awake => rw [Execution.role_awake awake] at takes; cases takes
      | urges awake => rw [Execution.role_awake awake] at takes; cases takes
      | passed awake => rw [Execution.role_awake awake] at takes; cases takes
    obtain ⟨activity, there, flies⟩ := (mem_executions world other).mp also
    have leading : activity.role? = some .leader := by
      cases activity with
      | running own caller =>
          obtain rfl := Option.some.inj flies
          exact leads
      | _ => cases flies
    have most := gathered.leaders
    rw [free] at most
    have one : 0 < world.leaders := List.countP_pos_iff.mpr ⟨activity, there, decide_eq_true leading⟩
    simp at most
    omega
  · rw [(fenced.plain other also plain).idle] at takes
    cases takes

theorem behind_barrier (listed : world.Listed) (host : Execution) (caller : Caller)
    (there : .running host caller ∈ world.activities) (awaits : host.command.kind = .await) (result : Except Error Unit)
    (after : Player) (step : host.step? world.player = some (.ended result, after))
    (undisturbed : world.player.interrupt? host.token = none)
    (bodiless : world.player.isReturnVisit host.loaded host.index = true ∨ host.loaded.playlist.enters host.index = false)
    (other : Execution) (also : other ∈ world.executions) (different : other.id ≠ host.id) :
    other.command.kind.isSteady = false := by
  have under : host ∈ world.executions := (mem_executions world host).mpr ⟨_, there, rfl⟩
  have drained := end_alone host world.player result after (fenced.bars host under awaits) step undisturbed bodiless
  have parked := List.all_eq_true.mp drained other.entry (listed.entered other also)
  simp only [Bool.or_eq_true, decide_eq_true_eq, Option.some.injEq, List.contains_iff_mem] at parked
  exact parked_unsteady gathered layered fenced host other under undisturbed also
    (parked.resolve_left fun same => different same.symm)

end Behind

-- The move with which a command that nobody awaits is announced as executed.
def Ends (world : World) (move : Move) (execution : Execution) : Prop :=
  ∃ last, world.mover? move = some (.running last .nobody) ∧ last.origin = execution.origin ∧
    (world.move move).player.endings = execution.entry.announced :: world.player.endings

theorem entry_same {execution next : Execution} (same : next.origin = execution.origin) : next.entry = execution.entry :=
  (congrArg Execution.entry same :)

theorem detached_step (execution : Execution) (player : Player) (successor : Activity) (after : Player)
    (told : player.outbox = []) (step : (Activity.running execution .nobody).step? player = some (successor, after)) :
    (∃ next, successor = .running next .nobody ∧ next.origin = execution.origin) ∨
      after.endings = execution.entry.announced :: player.endings := by
  cases step_books told step with
  | nothing idle => cases idle
  | starts _ idle => cases idle
  | goes own next same _ _ _ origin went =>
      obtain rfl := Option.some.inj same
      simp only [Activity.step?, went, Option.map_some, Option.some.injEq, Prod.mk.injEq] at step
      exact .inl ⟨next, step.1.symm, origin⟩
  | ends own same _ _ _ journal =>
      obtain rfl := Option.some.inj same
      exact .inr journal.2

theorem detached_until_end (world : World) (numbered : world.Numbered) (id : Nat) (thread : Thread) (execution : Execution)
    (there : world.thread? id = some thread) (detached : thread.activity = .running execution .nobody) (moves : List Move) :
    (∃ now, (world.after moves).mover? (.thread id) = some (.running now .nobody) ∧ now.origin = execution.origin) ∨
      ∃ before move after, moves = before ++ move :: after ∧ (world.after before).Ends move execution := by
  induction moves generalizing world thread execution with
  | nil => exact .inl ⟨execution, by rw [after, List.foldl_nil, mover?, there, Option.map_some, detached], rfl⟩
  | cons move moves ih =>
      obtain ⟨old, _⟩ := thread_mem numbered there
      have later := (move_comes world numbered move).2
      rcases (thread_stays world move id old).2 with same | ⟨rfl, own, ⟨successor, player⟩, found, step⟩
      · rcases ih (world.move move) later thread execution (same.trans there) detached with still | ⟨before, last, after, rfl, ends⟩
        · exact .inl still
        · exact .inr ⟨move :: before, last, after, rfl, ends⟩
      · obtain rfl := Option.some.inj (there.symm.trans found)
        rw [detached] at step
        rcases detached_step execution world.player successor player numbered.told step with ⟨next, rfl, same⟩ | announced
        · have moved : thread.activity.step? world.player = some (.running next .nobody, player) := by rw [detached, step]
          have now := thread_moves_on world numbered old there moved
          obtain ⟨after, found, runs⟩ := Option.map_eq_some_iff.mp now
          rcases ih (world.move (.thread id)) later after next found runs with ⟨now, still, same_⟩ | ⟨before, last, rest, rfl, ends⟩
          · exact .inl ⟨now, still, same_.trans same⟩
          · obtain ⟨last_, mover, origin, announced⟩ := ends
            exact .inr ⟨.thread id :: before, last, rest, rfl, last_, mover, origin.trans same, entry_same same ▸ announced⟩
        · have mover : world.mover? (.thread id) = some (.running execution .nobody) := by
            rw [mover?, there, Option.map_some, detached]
          obtain ⟨⟨stage, told⟩, _⟩ := mover_steps numbered mover step
          refine .inr ⟨[], .thread id, moves, rfl, execution, mover, rfl, ?_⟩
          show (world.move (.thread id)).player.endings = _
          rw [told]
          exact announced

-- However the main loop, the commands that it detaches and the playlists beside it interleave: when an await block that is
-- awaited ends its return visit, or its only one if it has no body, and no completion, skip or cancellation has reached it, no
-- other command of a built-in kind but transitions is under way. Every such command that was ever detached before has been
-- announced as executed.
theorem barrier_separates (start : World) (fresh : start.Fresh) (earlier later : List Move)
    (orderly : start.Orderly (earlier ++ later)) (move : Move) (host : Execution) (caller : Caller)
    (mover : (start.after (earlier ++ later)).mover? move = some (.running host caller)) (awaited : caller.awaits = true)
    (passes : host.passes (start.after (earlier ++ later)).player = true) :
    (∀ other ∈ (start.after (earlier ++ later)).executions, other.id ≠ host.id → other.command.kind.isSteady = false) ∧
    ∀ id thread detached, (start.after earlier).thread? id = some thread → thread.activity = .running detached .nobody →
      detached.command.kind.isSteady = true →
      ∃ before ending since, later = before ++ ending :: since ∧ ((start.after earlier).after before).Ends ending detached := by
  have flight := in_flight_after start fresh.numbered (fresh_in_flight start fresh) (earlier ++ later)
  have listed := listed_after start fresh.numbered (fresh_in_flight start fresh) (fresh_listed start fresh) (earlier ++ later)
  have gathered := gathered_after start fresh (earlier ++ later)
  obtain ⟨fenced, layered⟩ := fenced_after start fresh (earlier ++ later) orderly
  have there := mover_mem mover
  obtain ⟨awaits, ⟨result, after, ends⟩, undisturbed, last⟩ := (host.passes_iff _).mp passes
  have alone := behind_barrier gathered layered fenced listed host caller there awaits result after ends undisturbed last
  refine ⟨alone, fun id thread detached found detaches steady => ?_⟩
  have numbered := after_numbered start fresh.numbered earlier
  rcases detached_until_end (start.after earlier) numbered id thread detached found detaches later with ⟨now, still, same⟩ | over_
  · exfalso
    rw [← after_append] at still
    have also := mover_mem still
    have different : now.id ≠ host.id := by
      intro one
      have twice := flies_once _ flight _ _ also there host.id (decide_eq_true one) (decide_eq_true rfl)
      rw [← (Activity.running.inj twice).2] at awaited
      cases awaited
    have unsteady := alone now ((mem_executions _ now).mpr ⟨_, also, rfl⟩) different
    rw [kind_same same, steady] at unsteady
    cases unsteady
  · exact over_

-- A pause that nobody awaits before an await block, and a shorter one inside.
def lined : World := stocked
  [⟨"road", [{ line := 0, wait := false, command := "wait", parameters := [("millis", .integer 100)] },
    { line := 1, command := "await" },
    { line := 2, indent := 1, wait := false, command := "wait", parameters := [("millis", .integer 50)] },
    { line := 3, command := "label", parameters := [("name", .text "a")] }, { line := 4, command := "stop" }]⟩]

-- The main loop comes to the end of the block before either of the pauses has begun.
def lineUp : List Move := List.flatten [[.ask (.play "road" none), .front], List.replicate 13 (.thread 0)]

def disperse : List Move :=
  List.flatten [List.replicate 3 (.thread 1), List.replicate 3 (.thread 2), [.pass 50], List.replicate 2 (.thread 2),
    [.thread 0, .pass 100], List.replicate 2 (.thread 1), [.thread 0]]

theorem lined_separates :
    let world := lined.after (lineUp ++ disperse)
    lined.Orderly (lineUp ++ disperse) ∧ world.player.endings.length = 3 ∧ world.player.executing.entries.length = 1 ∧
      ∀ id ∈ [1, 2], ∃ detached, (lined.after lineUp).mover? (.thread id) = some (.running detached .nobody) ∧
        ∃ before ending since, disperse = before ++ ending :: since ∧
          ((lined.after lineUp).after before).Ends ending detached := by
  intro world
  have orderly : lined.Orderly (lineUp ++ disperse) := by decide +kernel
  have fresh : lined.Fresh := ⟨numbered_new _ rfl, rfl, rfl, ⟨rfl, rfl⟩, rfl⟩
  refine ⟨orderly, by decide +kernel, by decide +kernel, fun id one => ?_⟩
  have passing : (world.mover? (.thread 0)).any (fun activity => activity.passes world.player) = true := by decide +kernel
  obtain ⟨activity, mover, passes⟩ := (Option.any_eq_true _ _).mp passing
  obtain ⟨host, caller, rfl, awaited, passes⟩ := activity.passes_running world.player passes
  have detached : ∀ id ∈ [1, 2], ((lined.after lineUp).thread? id).any
      (fun thread => thread.activity.detached?.any fun execution => execution.command.kind.isSteady) = true := by
    decide +kernel
  obtain ⟨thread, found, detached⟩ := (Option.any_eq_true _ _).mp (detached id one)
  obtain ⟨execution, flies, steady⟩ := (Option.any_eq_true _ _).mp detached
  have runs := thread.activity.detached_running execution flies
  refine ⟨execution, ?_, ?_⟩
  · rw [mover?, found, Option.map_some, runs]
  · exact (barrier_separates lined fresh lineUp disperse orderly (.thread 0) host caller mover awaited passes).2 id thread
      execution found runs steady

end World

end Storyline
