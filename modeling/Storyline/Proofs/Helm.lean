import Storyline.Proofs.Leeway

set_option autoImplicit false

/-!
The pilot of a run among transition blocks. It goes into a block at the first visit of the host and leaves it at the return
visit, and whatever the pilot is at, the chart tells where the caret is and whether the mask is on.
-/

namespace Storyline

-- Commands are built in, and the pilot waits for every transition.
def Playlist.Steady (p : Playlist) : Prop :=
  ∀ command ∈ p.commands.toList, command.kind.isCustom = false ∧ (command.kind.isTransition = true → command.wait = true)

instance Playlist.decidableSteady (p : Playlist) : Decidable p.Steady :=
  inferInstanceAs (Decidable (∀ command ∈ p.commands.toList, _ ∧ _))

theorem Playlist.steady_command (p : Playlist) (steady : p.Steady) (index : Nat) (command : Command)
    (found : p.command? index = some command) :
    command.kind.isCustom = false ∧ (command.kind.isTransition = true → command.wait = true) :=
  steady command (Array.mem_toList_iff.mpr (Array.mem_of_getElem? found))

theorem Playlist.veils_kind (p : Playlist) (index : Nat) (command : Command) (found : p.command? index = some command)
    (veils : p.Veils index) : command.kind.isTransition = true := by
  obtain ⟨millis, known⟩ := veils.kind
  rw [Option.some.inj ((p.kind_of index command found).symm.trans known)]
  rfl

-- A command that the pilot waits for, and that is under the caret.
structure Execution.Tends (execution : Execution) (player : Player) (loaded : Loaded) : Prop where
  under : execution.loaded = loaded ∧ execution.index = player.playback.index
  lane : execution.lane = .main
  full : player.abandoned ≤ execution.token.full
  prepared : execution.Prepared
  kind : execution.isDue = true → ∃ millis, loaded.playlist.kind? player.playback.index = some (.transition millis)
  opens : execution.isCovering = true →
    player.isReturnVisit loaded player.playback.index = false ∧ loaded.playlist.enters player.playback.index = true

-- Whether the command under the caret has turned the mask, if it is one that does.
def Activity.turned (player : Player) : Activity → Bool
  | .running execution _ => !execution.isDue
  | _ => player.playback.executed && player.playback.guardPassed

-- The door after a move.
def Activity.door (player : Player) (door : Option Nat) : Activity → Option Nat
  | .running execution _ => execution.door player door
  | _ => door

-- The pilot of the run, and where it is.
structure Piloted (loaded : Loaded) (first generation : Nat) (player : Player) (door : Option Nat) (activity : Activity) :
    Prop where
  helm : activity.pilot? = some (.loop generation)
  charted : player.Charted loaded first door (activity.turned player)
  awaits : ∀ execution caller, activity = .running execution caller →
    caller = .pilot (.loop generation) player.playback.epoch ∧ player.playback.executed = false ∧ execution.Tends player loaded

namespace Piloted

variable {loaded : Loaded} {first generation : Nat} {player after : Player} {door : Option Nat} {successor : Activity}

theorem between (activity : Activity) (helm : activity.pilot? = some (.loop generation)) (idle : activity.execution? = none)
    (charted : player.Charted loaded first door (player.playback.executed && player.playback.guardPassed)) :
    Piloted loaded first generation player door activity := by
  cases activity with
  | running execution caller => cases idle
  | _ => exact ⟨helm, charted, fun _ _ running => by cases running⟩

section Steers

variable (steady : loaded.playlist.Steady) (current : player.playback.generation = generation)
  (piloted : Piloted loaded first generation player door (.steering (.loop generation)))
include steady current piloted

theorem visits (unexecuted : player.playback.executed = false) (visited : Player.Visit × Player)
    (visit : player.visit generation = visited) (charted : visited.2.Charted loaded first door false)
    (caret : visited.2.playback.index = player.playback.index ∧ visited.2.playback.epoch = player.playback.epoch)
    (full : visited.2.abandoned = player.abandoned) :
    Piloted loaded first generation visited.2 door (Player.afterVisit (.loop generation) visited).1 := by
  have placed := piloted.charted.placed
  obtain ⟨command, found⟩ := loaded.playlist.command_found _ placed.bound
  obtain ⟨builtIn, waits⟩ := loaded.playlist.steady_command steady _ command found
  have veiled (veils : loaded.playlist.Veils visited.2.playback.index) : command.kind.isTransition = true :=
    loaded.playlist.veils_kind _ command (caret.1 ▸ found) veils
  have runs : player.runCommand generation loaded command = visited := by
    rw [← visit]
    simp [Player.visit, current, unexecuted, placed.there, found]
  obtain ⟨outcome, after⟩ := visited
  cases runs ▸ player.run_command_outcome generation loaded command current with
  | omits done ran refused =>
      obtain rfl : outcome = .done := done
      refine between _ rfl rfl ?_
      rw [show after.playback.guardPassed = false from refused, Bool.and_false]
      exact charted
  | detaches execution done ran passed apart =>
      obtain rfl : outcome = .done := done
      refine between _ rfl rfl (charted.plain (fun veils => ?_) _)
      cases apart.symm.trans (waits (veiled veils))
  | awaits execution running unexecuted' own new under lane layer =>
      obtain rfl : outcome = .running execution player.playback.epoch := running
      obtain ⟨prepared, due, bare⟩ := execution.prepared_new new (own ▸ builtIn)
      rw [own] at due
      refine ⟨rfl, ?_, fun other caller same => ?_⟩
      · show after.Charted loaded first door !execution.isDue
        cases transition : execution.isDue with
        | true => exact charted
        | false =>
            refine charted.plain (fun veils => ?_) _
            cases (due.symm.trans transition).symm.trans (veiled veils)
      · obtain ⟨rfl, rfl⟩ := Activity.running.inj same
        refine ⟨by rw [caret.2], unexecuted'.trans unexecuted, ⟨under.1, under.2.trans caret.1.symm⟩, lane, full ▸ layer,
          prepared, fun turns => ?_, fun covering => by cases bare.symm.trans covering⟩
        rw [caret.1, loaded.playlist.kind_of _ command found]
        rw [due] at turns
        cases kind : command.kind with
        | transition millis => exact ⟨millis, rfl⟩
        | _ => rw [kind] at turns; cases turns

theorem steers (step : (Activity.steering (.loop generation)).step? player = some (successor, after))
    (holds : successor.holds generation = true) (full : after.abandoned = player.abandoned) :
    Piloted loaded first generation after door successor := by
  have charted := step_charted (.steering (.loop generation)) player _ step rfl (fun _ same => by cases same) rfl loaded
    (fun _ runs => by cases runs) first door _ piloted.charted
  have moved : player.steerLoop generation = (successor, after) := Option.some.inj step
  rw [Player.steerLoop] at moved
  split at moved
  · split at moved
    · obtain ⟨rfl, rfl⟩ := Prod.mk.inj moved
      exact between _ rfl rfl piloted.charted
    · cases ran : player.playback.executed with
      | true =>
          rw [show player.visit generation = (.done, player) by simp [Player.visit, current, ran]] at moved
          obtain ⟨rfl, rfl⟩ := Prod.mk.inj moved
          exact between _ rfl rfl piloted.charted
      | false =>
          have same := Player.after_visit_player (.loop generation) (player.visit generation)
          rw [moved] at same
          obtain rfl : after = (player.visit generation).2 := same
          have caret : (player.visit generation).2.playback.index = player.playback.index ∧
              (player.visit generation).2.playback.epoch = player.playback.epoch := by
            rcases Player.visit_settles player generation with still | ⟨_, settled, _⟩
            · exact ⟨congrArg Caret.index still, congrArg Caret.epoch still⟩
            · exact ⟨congrArg Caret.index settled, congrArg Caret.epoch settled⟩
          have fresh : Activity.turned player (.steering (.loop generation)) = false := by
            rw [Activity.turned, ran, Bool.false_and]
            exact fun _ _ running => by cases running
          rw [fresh] at charted
          have which : (Player.afterVisit (.loop generation) (player.visit generation)).1 = successor := congrArg Prod.fst moved
          rw [← which]
          exact visits steady current piloted ran _ rfl charted caret full
  · obtain ⟨rfl, _⟩ := Prod.mk.inj moved
    cases holds

end Steers

theorem awaitsInput (auto : Bool) (deadline : Option Nat)
    (piloted : Piloted loaded first generation player door (.awaitingInput generation auto deadline))
    (step : (Activity.awaitingInput generation auto deadline).step? player = some (successor, after)) :
    Piloted loaded first generation after door successor := by
  have kept := step_charted (.awaitingInput generation auto deadline) player _ step rfl (fun _ same => by cases same) rfl
    loaded (fun _ runs => by cases runs) first door _ piloted.charted
  have within : Within {} player after := (player.await_input_edits generation auto deadline _ step).within rfl
  have caret := within.caret rfl
  have executed : after.playback.executed = player.playback.executed := congrArg Caret.executed caret
  have passed : after.playback.guardPassed = player.playback.guardPassed := congrArg Caret.guardPassed caret
  have charted : after.Charted loaded first door (after.playback.executed && after.playback.guardPassed) := by
    rw [executed, passed]
    exact kept
  have moved : player.awaitInput? generation auto deadline = some (successor, after) := step
  unfold Player.awaitInput? at moved
  split at moved
  · obtain ⟨rfl, _⟩ := Prod.mk.inj (Option.some.inj moved)
    exact between _ rfl rfl charted
  · split at moved
    · cases moved
    · split at moved
      · split at moved
        · obtain ⟨rfl, _⟩ := Prod.mk.inj (Option.some.inj moved)
          exact between _ rfl rfl charted
        · obtain ⟨rfl, _⟩ := Prod.mk.inj (Option.some.inj moved)
          exact between _ rfl rfl charted
      · cases moved

theorem advances (accepted : loaded.playlist.Accepted) (current : player.playback.generation = generation)
    (piloted : Piloted loaded first generation player door (.advancing (.loop generation)))
    (held : loaded.playlist.Veils player.playback.index → player.isReturnVisit loaded player.playback.index = true →
      player.playback.guardPassed = true)
    (step : (Activity.advancing (.loop generation)).step? player = some (successor, after))
    (holds : successor.holds generation = true) : Piloted loaded first generation after door successor := by
  have masked := step_masked (.advancing (.loop generation)) player _ step rfl rfl
  have moved : player.advancePilot (.loop generation) = (successor, after) := Option.some.inj step
  have there := piloted.charted.placed.there
  unfold Player.advancePilot at moved
  split at moved
  · next between' found =>
      obtain ⟨rfl, rfl⟩ := Prod.mk.inj moved
      have found : player.advance generation = (.moved, between') := found
      cases ran : player.playback.executed with
      | false =>
          have same : player.advance generation = (.moved, player) := by simp [Player.advance, current, there, ran]
          obtain rfl := (Prod.mk.inj (found.symm.trans same)).2
          exact between _ rfl rfl piloted.charted
      | true =>
          obtain ⟨next, leads, bound⟩ := player.advance_leads generation loaded current there ran (by rw [found])
          have follows := player.advance_follows generation loaded current there ran
          have landed := player.advance_moves generation loaded current there ran next leads bound
          rw [found] at follows landed
          have charted : player.Charted loaded first door player.playback.guardPassed := by
            have charted := piloted.charted
            rwa [Activity.turned, ran, Bool.true_and] at charted
            exact fun _ _ running => by cases running
          have onward := charted.advanced accepted next leads held (congrArg Caret.loaded landed) (congrArg Caret.index landed)
            bound follows masked (Activity.step_presenter _ player _ step)
          refine between _ rfl rfl ?_
          rw [show between'.playback.executed = false from congrArg Caret.executed landed]
          exact onward
  · obtain ⟨rfl, _⟩ := Prod.mk.inj moved
    cases holds
  · obtain ⟨rfl, _⟩ := Prod.mk.inj moved
    cases holds
  · obtain ⟨rfl, _⟩ := Prod.mk.inj moved
    cases holds
  · next impossible => cases impossible
  · next impossible => cases impossible

section Runs

variable (execution : Execution) (caller : Caller)
  (piloted : Piloted loaded first generation player door (.running execution caller))
  (sedate : (Activity.running execution caller).lands = false)
include piloted sedate

theorem goes (next : Execution) (step : execution.step? player = some (.going next, after)) :
    after.Charted loaded first (execution.door player door) (!next.isDue) := by
  obtain ⟨_, _, tends⟩ := piloted.awaits execution caller rfl
  have moved : (Activity.running execution caller).step? player = some (.running next caller, after) := by
    rw [Activity.step?, step]
    rfl
  have fixed (pilot : Pilot) (same : Activity.running execution caller = .advancing pilot) :
      player.playback.generation ≠ pilot.generation := by cases same
  have apart (run : Run) (runs : (Activity.running execution caller).run? = some run) :
      run.loaded.handle ≠ loaded.handle := by
    obtain ⟨rfl, _⟩ := piloted.awaits execution caller rfl
    cases runs
  obtain ⟨there, here⟩ := step_rests _ player _ moved sedate fixed
  have flags := step_return_visits _ player _ moved sedate fixed loaded apart
  have presenter := Activity.step_presenter _ player _ moved
  have charted : player.Charted loaded first door (!execution.isDue) := piloted.charted
  cases due : execution.isDue with
  | false =>
      have calm : execution.turnsMask = false := Bool.eq_false_iff.mpr fun turning => by
        cases due.symm.trans (execution.due_of_turning turning)
      rw [execution.step_done next player after due step, execution.door_calm player door calm, ← due]
      exact step_charted _ player _ moved sedate fixed calm loaded apart first door _ charted
  | true =>
      rw [due] at charted
      have kind := tends.kind due
      cases execution.step_films player tends.lane tends.prepared due _ after step with
      | later _ _ due' _ masked stays =>
          rw [due', stays]
          exact charted.kept there here flags masked presenter
      | leaves _ done visit masked shuts =>
          rw [tends.under.1, tends.under.2] at visit
          rw [done, shuts]
          exact charted.left there here flags ⟨kind, (charted.placed.due _ visit).enters⟩ visit masked presenter
      | passes _ done bare masked stays =>
          rw [tends.under.1, tends.under.2] at bare
          rw [done, stays]
          refine (charted.kept there here flags masked presenter).plain (fun veils => ?_) true
          rw [here] at veils
          cases bare.symm.trans veils.enters
      | covers _ done covering masked opens =>
          obtain ⟨visit, enters⟩ := tends.opens covering
          rw [done, opens, tends.under.2]
          exact charted.opened there here flags ⟨kind, enters⟩ visit masked

-- The command is over. If its picture could not be captured, the block is gone into without the mask.
theorem ends (result : Except Error Unit) (between : Player) (went : execution.step? player = some (.ended result, between))
    (step : (Activity.running execution caller).step? player = some (successor, after)) :
    after.Charted loaded first (execution.door player door) true := by
  obtain ⟨rfl, _, tends⟩ := piloted.awaits execution caller rfl
  have fixed (pilot : Pilot) (same : Activity.running execution (.pilot (.loop generation) player.playback.epoch) =
      .advancing pilot) : player.playback.generation ≠ pilot.generation := by cases same
  have kept (calm : execution.turnsMask = false) : after.Charted loaded first door (!execution.isDue) :=
    step_charted _ player _ step sedate fixed calm loaded (fun _ runs => by cases runs) first door _ piloted.charted
  cases due : execution.isDue with
  | false =>
      have calm : execution.turnsMask = false := Bool.eq_false_iff.mpr fun turning => by
        cases due.symm.trans (execution.due_of_turning turning)
      have charted := kept calm
      rw [due] at charted
      rw [execution.door_calm player door calm]
      exact charted
  | true =>
      cases execution.step_films player tends.lane tends.prepared due _ between went with
      | fails cause covering failure calm stays =>
          have charted := kept calm
          rw [due] at charted
          obtain ⟨_, here⟩ := step_rests _ player _ step sedate fixed
          have fresh : after.isReturnVisit loaded after.playback.index = false := by
            rw [here, step_return_visits _ player _ step sedate fixed loaded (fun _ runs => by cases runs)]
            exact (tends.opens covering).1
          rw [stays]
          exact charted.unfilmed fresh cause ((Activity.step_presenter _ player _ step) ▸ failure)
      | gives _ given => exact absurd (of_decide_eq_true given) (Nat.not_lt.mpr tends.full)

theorem runs (step : (Activity.running execution caller).step? player = some (successor, after))
    (current : player.playback.generation = generation) (holds : successor.holds generation = true)
    (full : after.abandoned = player.abandoned) :
    Piloted loaded first generation after (execution.door player door) successor := by
  obtain ⟨rfl, unexecuted, tends⟩ := piloted.awaits execution caller rfl
  obtain ⟨⟨progress, between_⟩, went, rest⟩ := Option.map_eq_some_iff.mp step
  have stepped := execution.step_within player progress between_ went
  have caret := stepped.caret (execution.sedate_footprint sedate)
  cases progress with
  | going next =>
      have charted := goes execution _ piloted sedate next went
      have flags := step_return_visits _ player _ step sedate (fun _ same => by cases same) loaded (fun _ runs => by cases runs)
      obtain ⟨rfl, rfl⟩ := Prod.mk.inj rest
      obtain ⟨prepared, due, opens⟩ := execution.step_prepared next player between_ tends.lane tends.prepared went
      obtain ⟨origin, _⟩ := execution.step_going next player between_ went
      refine ⟨rfl, charted, fun other caller same => ?_⟩
      obtain ⟨rfl, rfl⟩ := Activity.running.inj same
      have index : between_.playback.index = player.playback.index := congrArg Caret.index caret
      refine ⟨by rw [show between_.playback.epoch = _ from congrArg Caret.epoch caret]; rfl,
        (congrArg Caret.executed caret).trans unexecuted,
        ⟨(congrArg Execution.loaded origin).trans tends.under.1, ?_⟩, (congrArg Execution.lane origin).trans tends.lane, ?_,
        prepared, fun turns => ?_, fun covering => ?_⟩
      · exact ((congrArg Execution.index origin).trans tends.under.2).trans index.symm
      · rw [full, (Execution.origin_same origin).2.2.2]
        exact tends.full
      · rw [index]
        exact tends.kind (due turns)
      · rw [flags, index]
        rw [tends.under.1, tends.under.2] at opens
        exact (opens covering).elim tends.opens id
  | ended result =>
      have charted := ends execution _ piloted sedate result between_ went step
      have finished : Within {} between_ (between_.finish execution result).2 := (Player.finish_edits between_ execution result).within rfl
      have epoch : (between_.finish execution result).2.playback.epoch = player.playback.epoch :=
        congrArg Caret.epoch ((finished.caret rfl).trans caret)
      have resumed : (between_.finish execution result).2.resumeCaller (.pilot (.loop generation) player.playback.epoch)
          (between_.finish execution result).1 = (successor, after) := rest
      cases outcome : (between_.finish execution result).1 with
      | error cause =>
          rw [outcome] at resumed
          obtain ⟨rfl, _⟩ := Prod.mk.inj resumed
          cases holds
      | ok _ =>
          rw [outcome] at resumed
          have steered : (between_.finish execution result).2.playback.generation = generation :=
            (finished.pilots rfl).1.trans ((stepped.pilots (execution_footprint_pilots execution)).1.trans current)
          have settled := Player.settle_current _ generation _ true steered epoch
          have resumed : Player.afterVisit (.loop generation)
              ((between_.finish execution result).2.settle generation player.playback.epoch true) = (successor, after) := resumed
          rw [settled] at resumed
          obtain ⟨rfl, rfl⟩ := Prod.mk.inj resumed
          exact between _ rfl rfl charted

end Runs

-- One move of the pilot, whatever it is at.
theorem steps (accepted : loaded.playlist.Accepted) (steady : loaded.playlist.Steady) (activity : Activity)
    (piloted : Piloted loaded first generation player door activity) (current : player.playback.generation = generation)
    (sedate : activity.lands = false)
    (held : activity.advancing?.isSome = true → player.isReturnVisit loaded player.playback.index = true →
      player.playback.guardPassed = true)
    (step : activity.step? player = some (successor, after)) (holds : successor.holds generation = true)
    (full : after.abandoned = player.abandoned) : Piloted loaded first generation after (activity.door player door) successor := by
  have helm := piloted.helm
  cases activity with
  | steering pilot =>
      obtain rfl := Option.some.inj helm
      exact steers steady current piloted step holds full
  | advancing pilot =>
      obtain rfl := Option.some.inj helm
      exact advances accepted current piloted (fun _ => held rfl) step holds
  | awaitingInput own auto deadline =>
      obtain rfl : own = generation := Pilot.loop.inj (Option.some.inj helm)
      exact awaitsInput auto deadline piloted step
  | running execution caller => exact runs execution caller piloted sedate step current holds full
  | _ => cases helm

theorem kept (activity : Activity) (piloted : Piloted loaded first generation player door activity)
    (caret : after.playback.caret = player.playback.caret)
    (flags : ∀ host, after.isReturnVisit loaded host = player.isReturnVisit loaded host)
    (charted : ∀ turned, player.Charted loaded first door turned → after.Charted loaded first door turned)
    (full : after.abandoned = player.abandoned) : Piloted loaded first generation after door activity := by
  have executed : after.playback.executed = player.playback.executed := congrArg Caret.executed caret
  have passed : after.playback.guardPassed = player.playback.guardPassed := congrArg Caret.guardPassed caret
  have index : after.playback.index = player.playback.index := congrArg Caret.index caret
  have turned : activity.turned after = activity.turned player := by
    cases activity with
    | running execution caller => rfl
    | _ =>
        show (after.playback.executed && after.playback.guardPassed) = (player.playback.executed && player.playback.guardPassed)
        rw [executed, passed]
  refine ⟨piloted.helm, turned ▸ charted _ piloted.charted, fun execution caller running => ?_⟩
  obtain ⟨waits, unexecuted, tends⟩ := piloted.awaits execution caller running
  refine ⟨waits.trans ?_, executed.trans unexecuted, ⟨tends.under.1, tends.under.2.trans index.symm⟩, tends.lane,
    full ▸ tends.full, tends.prepared, index ▸ tends.kind, by rw [flags, index]; exact tends.opens⟩
  rw [show after.playback.epoch = _ from congrArg Caret.epoch caret]
  rfl

end Piloted

end Storyline
