import Storyline.Proofs.Journey

set_option autoImplicit false

/-!
Headway. A command that is alone in flight always comes to its end if only the time passes: there is nobody it could wait for,
and what it does, waits included, is finite. So a pilot that has the player to itself comes from every visit to the next one.
-/

namespace Storyline

-- Nothing is in flight, and no rendezvous is in progress.
structure Player.Calm (player : Player) : Prop where
  entries : player.executing.entries = []
  idle : player.rendezvous.inProgress = false

/-! ### Commands that are alone -/

-- A bound on the moves that an effect takes, with all that it leads to.
def Effect.weight : Effect → Nat
  | .say _ | .rest _ | .sleep .. | .pause _ | .capture | .blend .. | .completeOthers | .waitOthers => 2
  | .awaitOthers => 3
  | .barrier => 4
  | .transition _ => 5
  | _ => 1

def Effect.load : List Effect → Nat
  | [] => 0
  | effect :: effects => effect.weight + load effects

theorem Effect.load_append (first second : List Effect) : load (first ++ second) = load first + load second := by
  induction first with
  | nil => exact (Nat.zero_add _).symm
  | cons effect effects ih => rw [List.cons_append, load, load, ih, Nat.add_assoc]

theorem Effect.weight_pos (effect : Effect) : 0 < effect.weight := by
  cases effect <;> exact Nat.succ_pos _

theorem Effect.pushes_light {effect : Effect} {extra : List Effect} (pushed : extra ∈ effect.pushes) :
    load extra < effect.weight := by
  cases effect with
  | barrier | awaitOthers | transition _ =>
      simp only [pushes, List.mem_cons, List.not_mem_nil, or_false] at pushed
      rcases pushed with rfl | rfl | rfl | rfl <;> simp [load, weight]
  | _ =>
      obtain rfl := List.mem_singleton.mp pushed
      exact weight_pos _

theorem Effect.pauses_heavy {effect : Effect} (waits : effect.pauses = true) : 1 < effect.weight := by
  cases effect <;> first | exact Nat.le_refl 2 | exact Nat.le_succ 2 | cases waits

theorem Ending.of_done (what : String) (interrupt : Option Interrupt) :
    ∃ ending, Ending.of? what interrupt true = some ending := by
  cases interrupt with
  | none => exact ⟨_, rfl⟩
  | some interrupt => cases interrupt <;> exact ⟨_, rfl⟩

namespace Executing

theorem drained_of_alone (executing : Executing) (id : Nat) (alone : ∀ entry ∈ executing.entries, entry.id = id) :
    executing.drained (some id) = true := by
  simp only [drained, List.all_eq_true, Bool.or_eq_true, decide_eq_true_eq]
  intro entry member
  exact .inl (congrArg some (alone entry member).symm)

theorem drained_of_parked (executing : Executing) (id : Nat) (alone : ∀ entry ∈ executing.entries, entry.id = id) :
    (executing.park id).drained none = true := by
  have entries : (executing.park id).entries = executing.entries := by
    unfold park
    split <;> rfl
  simp only [drained, List.all_eq_true, Bool.or_eq_true, List.contains_iff_mem, entries]
  intro entry member
  refine .inr ?_
  have flies : executing.inFlight id = true := List.any_eq_true.mpr ⟨entry, member, decide_eq_true (alone entry member)⟩
  rw [alone entry member, park, flies]
  cases parked : executing.parked.contains id with
  | true => exact List.contains_iff_mem.mp parked
  | false => exact List.mem_cons_self

end Executing

namespace Execution

def weight (execution : Execution) : Nat :=
  Effect.load execution.todo + (if execution.begun then 0 else 1) + (if execution.wait.isSome then 1 else 0)

def isMeeting (execution : Execution) : Bool :=
  match execution.wait with
  | some (.rendezvous _) => true
  | _ => false

-- No other command is in flight, and if there is a rendezvous the command leads it.
structure Alone (execution : Execution) (player : Player) : Prop where
  entries : ∀ entry ∈ player.executing.entries, entry.id = execution.id
  idle : execution.isMeeting = false → player.rendezvous.inProgress = false
  leads : ∀ role, execution.wait = some (.rendezvous role) → role = .leader ∧ player.executing.drained none = true

-- A command that is alone goes on, with less to do than before, or is over.
inductive Onward (execution : Execution) (progress : Progress) (after : Player) : Prop where
  | goes (next : Execution) (going : progress = .going next) (alone : next.Alone after) (less : next.weight < execution.weight)
  | ends (result : Except Error Unit) (ended : progress = .ended result)
      (entries : ∀ entry ∈ after.executing.entries, entry.id = execution.id) (idle : after.rendezvous.inProgress = false)

variable (execution : Execution) (player : Player)

-- What an effect leads to weighs less than the effect.
inductive Lightens (effect : Effect) : Progress → Prop where
  | ended (result : Except Error Unit) : Lightens effect (.ended result)
  | going (more : List Effect) (wait : Option Wait)
      (light : Effect.load more + (if wait.isSome then 1 else 0) < effect.weight)
      (meets : ∀ role, wait = some (.rendezvous role) → effect = .completeOthers) :
      Lightens effect (.going { execution.push more with wait := wait })

theorem perform_lightens (effect : Effect) (awake : execution.wait = none) :
    execution.Lightens effect (execution.perform effect player).1 := by
  have performs := execution.perform_performs effect player
  generalize (execution.perform effect player).1 = progress at performs ⊢
  cases performs with
  | ended result => exact .ended result
  | pushes extra pushed =>
      have same : execution.push extra = { execution.push extra with wait := none } := by rw [push, ← awake]
      rw [same]
      exact .going extra none (Effect.pushes_light pushed) fun role none => by cases none
  | awaits wait pauses meets =>
      exact .going [] (some wait) (Effect.pauses_heavy pauses) fun role same => meets role (Option.some.inj same)

theorem weight_pushed (effect : Effect) (rest more : List Effect) (wait : Option Wait) (awake : execution.wait = none)
    (begun : execution.begun = true) (effects : execution.effects = effect :: rest)
    (light : Effect.load more + (if wait.isSome then 1 else 0) < effect.weight) :
    weight { push { execution with effects := rest } more with wait := wait } < execution.weight := by
  have before : execution.weight = effect.weight + Effect.load rest := by
    simp [weight, todo, begun, effects, awake, Effect.load]
  have after : weight { push { execution with effects := rest } more with wait := wait } =
      Effect.load more + Effect.load rest + if wait.isSome then 1 else 0 := by
    simp [weight, todo, begun, push, Effect.load_append]
  omega

section Alone

variable {execution player} (alone : execution.Alone player)
include alone

theorem alone_idle (awake : execution.wait = none) : player.rendezvous.inProgress = false :=
  alone.idle (by rw [isMeeting, awake])

theorem meet_alone (awake : execution.wait = none) :
    let met := player.enterRendezvous none (some execution.id)
    Alone { execution with wait := some (.rendezvous met.1) } met.2 := by
  intro met
  have idle := alone_idle alone awake
  have role : met.1 = .leader := by simp [met, Player.enterRendezvous, Rendezvous.enter, idle]
  have executing : met.2.executing = player.executing.park execution.id := by
    simp [met, Player.enterRendezvous, Rendezvous.enter, idle, Player.tell]
  have entries : (player.executing.park execution.id).entries = player.executing.entries := by
    unfold Executing.park
    split <;> rfl
  refine ⟨?_, fun apart => absurd apart (by simp [isMeeting]), fun other same => ⟨?_, ?_⟩⟩
  · rw [executing, entries]
    exact alone.entries
  · rw [← role]
    exact (Wait.rendezvous.inj (Option.some.inj same)).symm
  · rw [executing]
    exact player.executing.drained_of_parked execution.id alone.entries

theorem perform_onward (effect : Effect) (rest : List Effect) (awake : execution.wait = none) (begun : execution.begun = true)
    (effects : execution.effects = effect :: rest) (progress : Progress) (after : Player)
    (moved : { execution with effects := rest }.perform effect player = (progress, after)) :
    execution.Onward progress after := by
  have lightens := perform_lightens { execution with effects := rest } player effect awake
  have spares := perform_spares { execution with effects := rest } effect player
  rw [moved] at lightens spares
  by_cases meets : effect = .completeOthers
  · subst meets
    obtain ⟨rfl, rfl⟩ := Prod.mk.inj moved
    have met := meet_alone alone awake
    refine .goes _ rfl ⟨met.entries, met.idle, met.leads⟩ ?_
    exact execution.weight_pushed .completeOthers rest [] _ awake begun effects (Nat.le_refl 2)
  · have apart : effect.reach.executing = false ∧ effect.reach.meets = false := by
      cases effect with
      | completeOthers => exact absurd rfl meets
      | _ => exact ⟨rfl, rfl⟩
    have executing : after.executing = player.executing := (spares.executing apart.1).1
    have rendezvous : after.rendezvous = player.rendezvous := spares.meets apart.2
    have entries : ∀ entry ∈ after.executing.entries, entry.id = execution.id := executing ▸ alone.entries
    have idle : after.rendezvous.inProgress = false := rendezvous ▸ alone_idle alone awake
    cases lightens with
    | ended result => exact .ends result rfl entries idle
    | going more wait light only =>
        refine .goes _ rfl ⟨entries, fun _ => idle, fun role same => absurd (only role same) meets⟩ ?_
        exact execution.weight_pushed effect rest more wait awake begun effects light

theorem wake_alone (wait : Wait) (waits : execution.wait = some wait) (result : Except Error Unit) (after : Player)
    (wakes : execution.wake? wait player = some (result, after)) :
    (∀ entry ∈ after.executing.entries, entry.id = execution.id) ∧ after.rendezvous.inProgress = false := by
  have spares := execution.wake_spares wait player (result, after) wakes
  have stays (executing : wait.reach.executing = false) (meets : wait.reach.meets = false) (apart : execution.isMeeting = false) :
      (∀ entry ∈ after.executing.entries, entry.id = execution.id) ∧ after.rendezvous.inProgress = false := by
    have same : after.executing = player.executing := (spares.executing executing).1
    have met : after.rendezvous = player.rendezvous := spares.meets meets
    exact ⟨same ▸ alone.entries, met ▸ alone.idle apart⟩
  cases wait with
  | rendezvous role =>
      obtain ⟨rfl, drained⟩ := alone.leads role waits
      obtain ⟨left, leaves, same⟩ := Option.map_eq_some_iff.mp wakes
      obtain ⟨_, rfl⟩ := Prod.mk.inj same
      simp only [Player.leaveRendezvous?, drained, if_true] at leaves
      obtain rfl := Option.some.inj leaves
      have noted : Spares {} player (player.notes player.rendezvous.conclude.1) := (player.notes_edits _).spares rfl
      refine ⟨?_, rfl⟩
      simp only [Player.unpark, Player.tell, Player.publish, (noted.executing rfl).1, Executing.unpark]
      exact alone.entries
  | _ => exact stays rfl rfl (by rw [isMeeting, waits])

theorem step_onward (progress : Progress) (after : Player) (step : execution.step? player = some (progress, after)) :
    execution.Onward progress after := by
  cases execution.step_steps player progress after step with
  | wakes wait woken waits wakes moved =>
      obtain ⟨result, between⟩ := woken
      obtain ⟨entries, idle⟩ := wake_alone alone wait waits result between wakes
      cases result with
      | ok _ =>
          obtain ⟨rfl, rfl⟩ := Prod.mk.inj moved
          refine .goes _ rfl ⟨entries, fun _ => idle, fun role none => by cases none⟩ ?_
          have todo : todo { execution with wait := none } = execution.todo := rfl
          simp [weight, todo, waits]
      | error cause =>
          obtain ⟨rfl, rfl⟩ := Prod.mk.inj moved
          exact .ends _ rfl entries idle
  | gives awake unbegun given same ended =>
      subst same
      exact .ends _ ended alone.entries (alone_idle alone awake)
  | begins awake unbegun same going =>
      subst same
      refine .goes _ going ⟨alone.entries, alone.idle, alone.leads⟩ ?_
      simp [weight, todo, unbegun, awake]
  | does effect rest awake begun effects moved => exact perform_onward alone effect rest awake begun effects progress after moved
  | ends awake begun effects same ended =>
      subst same
      exact .ends _ ended alone.entries (alone_idle alone awake)

-- If only the time passes, it can go on.
theorem alone_steps : ∃ time moved, execution.step? { player with clock := time } = some moved := by
  cases waits : execution.wait with
  | none =>
      refine ⟨player.clock, ?_⟩
      unfold step?
      rw [waits]
      dsimp only
      split
      · split <;> exact ⟨_, rfl⟩
      · split <;> exact ⟨_, rfl⟩
  | some wait =>
      have woken : ∃ time woken, execution.wake? wait { player with clock := time } = some woken := by
        cases wait with
        | sleep token what deadline closing =>
            refine ⟨deadline, ?_⟩
            obtain ⟨ending, ends⟩ := Ending.of_done what (Player.interrupt? { player with clock := deadline } token)
            simp only [wake?, Nat.le_refl, decide_true, ends]
            cases ending <;> exact ⟨_, rfl⟩
        | pause deadline => exact ⟨deadline, _, if_pos (Nat.le_refl _)⟩
        | barrier token =>
            refine ⟨player.clock, ?_⟩
            obtain ⟨ending, ends⟩ := Ending.of_done "await" (player.interrupt? token)
            simp only [wake?, player.executing.drained_of_alone execution.id alone.entries, ends]
            cases ending with
            | error cause => exact ⟨_, rfl⟩
            | ok ending => cases ending <;> exact ⟨_, rfl⟩
        | others =>
            exact ⟨player.clock, _, if_pos (player.executing.drained_of_alone execution.id alone.entries)⟩
        | rendezvous role =>
            obtain ⟨rfl, drained⟩ := alone.leads role waits
            refine ⟨player.clock, ?_⟩
            simp only [wake?, Player.leaveRendezvous?, drained, if_true]
            exact ⟨_, rfl⟩
      obtain ⟨time, woken, wakes⟩ := woken
      refine ⟨time, { execution with wait := none }.unlessFailed woken, ?_⟩
      rw [step?, waits]
      exact Option.map_eq_some_iff.mpr ⟨woken, wakes, rfl⟩

end Alone

end Execution

/-! ### Pilots that have the player to themselves -/

-- A pilot that waits for nobody else.
def Activity.Placid (player : Player) : Activity → Prop
  | .running execution _ => execution.Alone player
  | .steering _ | .advancing _ => player.Calm
  | _ => False

def Activity.rank : Activity → Nat
  | .running execution _ => execution.weight + 2
  | .advancing _ => 1
  | _ => 0

theorem Activity.placid_same (activity : Activity) {player other : Player} (placid : activity.Placid player)
    (executing : other.executing = player.executing) (rendezvous : other.rendezvous = player.rendezvous) :
    activity.Placid other := by
  cases activity with
  | running execution caller =>
      exact ⟨executing ▸ placid.entries, rendezvous ▸ placid.idle, executing ▸ placid.leads⟩
  | steering _ | advancing _ => exact ⟨executing ▸ placid.entries, rendezvous ▸ placid.idle⟩
  | _ => exact placid.elim

theorem Player.Calm.spared {player after : Player} {reach : Reach} (calm : player.Calm) (spares : Spares reach player after)
    (executing : reach.executing = false) (meets : reach.meets = false) : after.Calm :=
  ⟨(spares.executing executing).1 ▸ calm.entries, spares.meets meets ▸ calm.idle⟩

namespace Player

variable (player : Player) (pilot : Pilot)

theorem settle_placid (epoch : Nat) (passed : Bool) (calm : player.Calm) :
    let moved := afterVisit pilot (player.settle pilot.generation epoch passed)
    moved.1.Placid moved.2 ∧ moved.1.rank ≤ 1 := by
  simp only [settle]
  split
  · exact ⟨⟨calm.entries, calm.idle⟩, Nat.le_refl 1⟩
  · exact ⟨calm, Nat.zero_le 1⟩

theorem launch_alone (loaded : Loaded) (index : Nat) (command : Command) (lane : Lane) (calm : player.Calm) :
    (player.launch loaded index command lane).1.Alone (player.launch loaded index command lane).2 := by
  have entries : (player.launch loaded index command lane).2.executing.entries =
      player.executing.entries ++ [⟨player.executing.nextId, command.spot, lane⟩] := rfl
  refine ⟨fun entry member => ?_, fun _ => calm.idle, fun role waits => by cases waits⟩
  rw [entries, calm.entries, List.nil_append, List.mem_singleton] at member
  exact congrArg Executing.Entry.id member

-- A command that the pilot waits for is the only one.
theorem visit_placid (awaited : ∀ loaded command, player.playback.loaded = some loaded →
      loaded.playlist.command? player.playback.index = some command → command.wait = true) (calm : player.Calm) :
    let moved := afterVisit pilot (player.visit pilot.generation)
    moved.1.Placid moved.2 := by
  intro moved
  simp only [moved, visit]
  split
  · exact calm
  · split
    · exact calm
    · split
      · exact calm
      · next loaded here =>
          split
          · exact calm
          · next command found =>
              have judged : Spares {} player (player.passesGuard command).2 := (player.guard_edits command).spares rfl
              simp only [runCommand]
              generalize (player.passesGuard command).2 = between at judged
              have still := calm.spared judged rfl rfl
              generalize visits :
                ({ between with played := between.played.add loaded.playlist.script player.playback.index } : Player) = visited
              have quiet : visited.Calm := by
                subst visits
                exact ⟨still.entries, still.idle⟩
              split
              · rw [if_pos (awaited loaded command here found)]
                exact launch_alone _ loaded _ command .main (quiet.spared (Edit.capture visited command.spot).spares rfl rfl)
              · exact (visited.settle_placid pilot _ _ quiet).1

theorem finish_calm (execution : Execution) (result : Except Error Unit)
    (entries : ∀ entry ∈ player.executing.entries, entry.id = execution.id) (idle : player.rendezvous.inProgress = false) :
    (player.finish execution result).2.Calm := by
  refine ⟨?_, (player.finish_edits execution result).spared.meets rfl ▸ idle⟩
  rw [(player.finish_unregisters execution result).1, Executing.unregister, List.filter_eq_nil_iff]
  intro entry member
  simpa using entries entry member

theorem advance_pilot_ends : (player.advancePilot pilot).1 = .steering pilot ∨ (player.advancePilot pilot).1.isOver = true := by
  unfold advancePilot
  split
  · exact .inl rfl
  · exact .inr (fail_over _ _ _).1
  · exact .inr rfl
  · exact .inr rfl
  · exact .inr (disembark_short _ _).1
  · exact .inr (disembark_short _ _).1

theorem under_way_placid (activity : Activity) (aboard : activity.Aboard pilot player.abandoned)
    (under_way : activity.isUnderWay = true) (placid : activity.Placid player) (moved : Activity × Player)
    (step : activity.step? player = some moved) (going : moved.1.isOver = false) :
    moved.1.Placid moved.2 ∧ moved.1.rank < activity.rank := by
  cases activity with
  | advancing own =>
      obtain rfl : player.advancePilot own = moved := Option.some.inj step
      have calm := Calm.spared placid (player.advance_pilot_edits own).spared rfl rfl
      rcases player.advance_pilot_ends own with arrives | done
      · rw [arrives]
        exact ⟨calm, Nat.zero_lt_one⟩
      · exact absurd (done.symm.trans going) (by simp)
  | running execution caller =>
      cases caller with
      | pilot own epoch =>
          obtain ⟨⟨progress, between⟩, went, rest⟩ := Option.map_eq_some_iff.mp step
          cases Execution.step_onward placid progress between went with
          | goes next goes alone less =>
              subst goes
              subst rest
              exact ⟨alone, Nat.add_lt_add_right less 2⟩
          | ends result ended entries idle =>
              subst ended
              have resumed : (between.finish execution result).2.resumeCaller (.pilot own epoch)
                  (between.finish execution result).1 = moved := rest
              have calm := between.finish_calm execution result entries idle
              cases passes : (between.finish execution result).1 with
              | ok _ =>
                  rw [passes] at resumed
                  obtain rfl := resumed
                  obtain ⟨still, low⟩ := (between.finish execution result).2.settle_placid own epoch true calm
                  exact ⟨still, Nat.lt_of_le_of_lt low (Nat.le_add_left 2 _)⟩
              | error cause =>
                  rw [passes] at resumed
                  obtain ⟨done, _⟩ := (between.finish execution result).2.fail_over own cause
                  rw [← resumed] at going
                  exact absurd (done.symm.trans going) (by simp)
      | _ => exact aboard.elim
  | _ => cases under_way

theorem under_way_steps (activity : Activity) (under_way : activity.isUnderWay = true) (placid : activity.Placid player) :
    ∃ time moved, activity.step? { player with clock := time } = some moved := by
  cases activity with
  | advancing own => exact ⟨player.clock, _, rfl⟩
  | running execution caller =>
      obtain ⟨time, moved, step⟩ := Execution.alone_steps placid
      exact ⟨time, _, Option.map_eq_some_iff.mpr ⟨moved, step, rfl⟩⟩
  | _ => cases under_way

end Player

namespace World

/-! ### From a visit to the next one -/

-- Moves of one who has the world to itself: its own, and the time passes.
def Solo (own : Move) (moves : List Move) : Prop := ∀ move ∈ moves, move = own ∨ ∃ time, move = .pass time

-- A pilot about to begin a visit, with nothing in flight.
structure Poised (newest : Nat) (own : Move) (pilot : Pilot) (world : World) : Prop where
  beside : world.Beside newest own
  mover : world.mover? own = some (.steering pilot)
  current : world.player.playback.generation = pilot.generation
  calm : world.player.Calm

theorem begins_own (world : World) (own : Move) (activity : Activity) (mover : world.mover? own = some activity) (loop : Nat)
    (same : own = .thread loop) : world.begins loop own = activity.isSteering := by
  subst same
  simp [World.begins, mover]

theorem beside_own {newest : Nat} {own : Move} (world : World) (beside : world.Beside newest own) (activity : Activity)
    (mover : world.mover? own = some activity) (successor : Activity) (player : Player)
    (step : activity.step? world.player = some (successor, player)) (frame : player.frame = world.player.reframe player.ground)
    (going : successor.isOver = false) :
    (world.move own).Beside newest own ∧ (world.move own).mover? own = some successor ∧
      (world.move own).player.frame = player.frame ∧ (world.move own).player.executing = player.executing ∧
        (world.move own).player.rendezvous = player.rendezvous := by
  have quiet : player.spawns = [] := (congrArg Frame.spawns frame).trans (beside_quiet beside)
  obtain ⟨after, same, _⟩ := beside_step beside own activity mover successor player step quiet (congrArg Frame.presenter frame)
    (fun different => absurd rfl different)
  obtain ⟨⟨stage, told⟩, now⟩ := mover_steps beside.numbered mover step
  refine ⟨after, now going, same, ?_, ?_⟩
  · rw [told]
  · rw [told]

theorem pass_beside {newest : Nat} {own : Move} (world : World) (beside : world.Beside newest own) (time : Nat) :
    (world.move (.pass time)).Beside newest own :=
  ⟨(move_comes world beside.numbered (.pass time)).2, beside.mild, fun other => by cases other <;> exact beside.others _⟩

theorem pass_mover (world : World) (time : Nat) (own : Move) : (world.move (.pass time)).mover? own = world.mover? own := by
  cases own <;> rfl

theorem glide {newest : Nat} {own : Move} {pilot : Pilot} {there : Ground} (world : World) (activity : Activity)
    (beside : world.Beside newest own) (mover : world.mover? own = some activity)
    (current : world.player.playback.generation = pilot.generation) (aboard : activity.Aboard pilot world.player.abandoned)
    (placid : activity.Placid world.player) (bound : activity.destiny world.player = some there) :
    ∃ moves, Solo own moves ∧ (∀ loop, own = .thread loop → world.rounds loop moves = []) ∧
      (world.after moves).Poised newest own pilot ∧ (world.after moves).player.frame = world.player.reframe there := by
  induction ranked : activity.rank using Nat.strongRecOn generalizing world activity with
  | ind rank ih =>
      by_cases under_way : activity.isUnderWay = true
      · -- it may have to wait for the time, then goes on
        obtain ⟨time, ⟨successor, player⟩, step⟩ := world.player.under_way_steps activity under_way placid
        have waited := pass_beside world beside time
        have stands := (pass_mover world time own).trans mover
        have sails := Player.under_way_sails (world.move (.pass time)).player pilot current activity waited.mild aboard under_way
          (successor, player) step
        cases sails with
        | over_ done nowhere short =>
            have still : activity.destiny (world.move (.pass time)).player = activity.destiny world.player :=
              activity.destiny_ground rfl
            rw [still, bound] at nowhere
            cases nowhere
        | on boarded frame destiny =>
            have going := successor.aboard_going _ _ boarded
            obtain ⟨placidly, less⟩ := Player.under_way_placid (world.move (.pass time)).player pilot activity aboard under_way
              (activity.placid_same placid rfl rfl) (successor, player) step going
            obtain ⟨after, now, same, executing, rendezvous⟩ := beside_own (world.move (.pass time)) waited activity stands
              successor player step frame going
            have ground : ((world.move (.pass time)).move own).player.ground = player.ground := congrArg Frame.ground same
            have led : successor.destiny ((world.move (.pass time)).move own).player = some there :=
              (successor.destiny_ground ground).trans (destiny.trans ((activity.destiny_ground rfl).trans bound))
            have layer : ((world.move (.pass time)).move own).player.abandoned = world.player.abandoned :=
              (congrArg Frame.abandoned same).trans (congrArg Frame.abandoned frame)
            have generation : ((world.move (.pass time)).move own).player.playback.generation = pilot.generation :=
              (congrArg Frame.generation same).trans ((congrArg Frame.generation frame).trans current)
            obtain ⟨moves, solo, silent, poised, reframed⟩ := ih successor.rank (ranked ▸ less) _ successor after now generation
              (layer ▸ boarded) (successor.placid_same placidly executing rendezvous) led rfl
            refine ⟨.pass time :: own :: moves, ?_, fun loop mine => ?_, poised, ?_⟩
            · intro move member
              rcases List.mem_cons.mp member with rfl | member
              · exact .inr ⟨time, rfl⟩
              · rcases List.mem_cons.mp member with rfl | member
                · exact .inl rfl
                · exact solo move member
            · have resting : activity.isSteering = false := by
                cases activity with
                | steering _ => cases under_way
                | _ => rfl
              have begins := begins_own _ own activity stands loop mine
              rw [World.rounds, World.rounds, begins, resting, silent loop mine]
              rfl
            · rw [after_cons, after_cons, reframed, Player.reframe, same, frame]
              rfl
      · -- it is there
        cases activity with
        | steering other =>
            obtain rfl : other = pilot := aboard
            obtain rfl : world.player.ground = there := Option.some.inj bound
            exact ⟨[], fun _ none => absurd none List.not_mem_nil, fun _ _ => rfl, ⟨beside, mover, current, placid⟩, rfl⟩
        | running _ _ | advancing _ => exact absurd rfl under_way
        | _ => exact placid.elim

theorem voyage {newest : Nat} {own : Move} {pilot : Pilot} {there : Ground} (world : World) (activity : Activity)
    (beside : world.Beside newest own) (mover : world.mover? own = some activity)
    (current : world.player.playback.generation = pilot.generation) (ready : Player) (same : ready.frame = world.player.frame)
    (calm : ready.Calm) (step : activity.step? world.player = some (Player.afterVisit pilot (ready.visit pilot.generation)))
    (tame : ∀ loaded command, ready.playback.loaded = some loaded →
      loaded.playlist.command? ready.playback.index = some command → command.wait = true ∧ command.kind.isTame = true)
    (leads : world.player.ground.course = some there) :
    ∃ moves, Solo own moves ∧ (∀ loop, own = .thread loop → (world.move own).rounds loop moves = []) ∧
      ((world.move own).after moves).Poised newest own pilot ∧
        ((world.move own).after moves).player.frame = world.player.reframe there := by
  obtain ⟨ground, framed⟩ := Player.reframe_of_frame same
  have generation : ready.playback.generation = pilot.generation := (congrArg Frame.generation same).trans current
  have sails := (ready.visit_sails pilot generation tame).from framed
  have placid := ready.visit_placid pilot (fun loaded command here found => (tame loaded command here found).1) calm
  generalize Player.afterVisit pilot (ready.visit pilot.generation) = moved at step sails placid
  obtain ⟨successor, player⟩ := moved
  cases sails with
  | over_ done nowhere short =>
      rw [ground, leads] at nowhere
      cases nowhere
  | on aboard frame destiny =>
      obtain ⟨after, now, moved, executing, rendezvous⟩ := beside_own world beside activity mover successor player step frame
        (successor.aboard_going _ _ aboard)
      have layer : (world.move own).player.abandoned = world.player.abandoned :=
        (congrArg Frame.abandoned moved).trans (congrArg Frame.abandoned frame)
      have led : successor.destiny (world.move own).player = some there :=
        (successor.destiny_ground (congrArg Frame.ground moved)).trans (destiny.trans (ground ▸ leads))
      obtain ⟨moves, solo, silent, poised, reframed⟩ := glide (world.move own) successor after now
        ((congrArg Frame.generation moved).trans ((congrArg Frame.generation frame).trans current)) (layer ▸ aboard)
        (successor.placid_same placid executing rendezvous) led
      refine ⟨moves, solo, silent, poised, ?_⟩
      rw [reframed, Player.reframe, moved, frame]
      rfl

end World

end Storyline
