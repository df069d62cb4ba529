import Storyline.Proofs.Helm

set_option autoImplicit false

/-!
Where the mask is on. The first visit of a transition block turns the mask on, and the return visit turns it off, whichever
block that is. So a command is masked inside the block that was gone into last, as long as no transition block has been left
since. If no such block stands in another one, that is every command in a body, and nothing else but the return visits.
-/

namespace Storyline

-- The mover neither takes the caret elsewhere nor plays the playlist beside it; and if it takes the caret on from a block that
-- is to be left, the block's guard has held.
def Activity.KeepsCourse (loaded : Loaded) (player : Player) (activity : Activity) : Prop :=
  activity.lands = false ∧ (∀ run ∈ activity.run?, run.loaded.handle ≠ loaded.handle) ∧
    (activity.advancing?.isSome = true → player.isReturnVisit loaded player.playback.index = true →
      player.playback.guardPassed = true)

instance Activity.decidableKeepsCourse (loaded : Loaded) (player : Player) (activity : Activity) :
    Decidable (activity.KeepsCourse loaded player) := inferInstanceAs (Decidable (_ ∧ _ ∧ _))

-- A transition of the main lane that has still to turn the mask.
def Activity.isDue : Activity → Bool
  | .running execution _ => execution.lane = .main && execution.isDue
  | _ => false

theorem Activity.door_calm (activity : Activity) (player : Player) (door : Option Nat) (calm : activity.turnsMask = false) :
    activity.door player door = door := by
  cases activity with
  | running execution caller => exact execution.door_calm player door calm
  | _ => rfl

-- Who cannot move has no transition for its next effect.
theorem Activity.door_idle (activity : Activity) (player : Player) (door : Option Nat) (idle : activity.step? player = none) :
    activity.door player door = door := by
  cases activity with
  | running execution caller =>
      refine execution.door_idle player door ?_
      cases next : execution.next? with
      | none => rfl
      | some effect =>
          rw [Execution.next?] at next
          split at next
          · next ready =>
              obtain ⟨awake, begun⟩ := Bool.and_eq_true_iff.mp ready
              obtain ⟨rest, effects⟩ := List.head?_eq_some_iff.mp next
              rw [step?, Execution.step?, Option.isNone_iff_eq_none.mp awake] at idle
              simp [begun, effects] at idle
          · cases next
  | _ => rfl

theorem Activity.calm_of_done (activity : Activity) (sedate : activity.lands = false) (done : activity.isDue = false) :
    activity.turnsMask = false := by
  cases activity with
  | running execution caller =>
      refine Bool.eq_false_iff.mpr fun turning => ?_
      have main := (Bool.and_eq_true_iff.mp turning).1
      cases done.symm.trans (Bool.and_eq_true_iff.mpr ⟨main, execution.due_of_turning turning⟩)
  | asked request =>
      cases request with
      | play script label => cases sedate
      | _ => rfl
  | draining replacement => cases sedate
  | _ => rfl

-- A transition that is still to come after a move was so before, or was started by whoever holds the caret.
theorem due_arises (activity successor : Activity) (player after : Player) (silent : player.outbox = [])
    (step : activity.step? player = some (successor, after)) (newcomer : Activity) (member : newcomer ∈ successor :: after.spawns)
    (due : newcomer.isDue = true) : ∃ execution caller, newcomer = .running execution caller ∧ execution.isDue = true ∧
      ((∃ old, activity.execution? = some old ∧ old.lane = .main ∧ old.step? player = some (.going execution, after)) ∨
        ∃ pilot, activity = .steering pilot ∧ player.playback.generation = pilot.generation) := by
  cases newcomer with
  | running execution caller =>
      obtain ⟨main, due⟩ := Bool.and_eq_true_iff.mp due
      have main : execution.lane = .main := of_decide_eq_true main
      refine ⟨execution, caller, rfl, due, ?_⟩
      have there : execution ∈ successor.execution?.toList ++ after.flights := by
        rcases List.mem_cons.mp member with rfl | spawned
        · exact List.mem_append_left _ List.mem_cons_self
        · exact List.mem_append_right _ (mem_flights spawned rfl)
      cases World.step_changed silent step execution there with
      | goes old own same _ went => exact .inl ⟨old, own, (congrArg Execution.lane same).symm.trans main, went⟩
      | starts _ _ launches _ =>
          have more : after.mainLaunches = player.mainLaunches + 1 := by
            simp [Player.mainLaunches, launches, Execution.entry, Executing.Entry.announced, main]
          cases step_launches step with
          | nothing same => exact absurd (more.symm.trans same) (Nat.succ_ne_self _)
          | starts pilot helm current => exact .inr ⟨pilot, helm, current⟩
  | _ => cases due

theorem stale_due (activity successor : Activity) (player after : Player) (silent : player.outbox = [])
    (step : activity.step? player = some (successor, after)) (stale : activity.holds player.playback.generation = false)
    (done : activity.isDue = false) (newcomer : Activity) (member : newcomer ∈ successor :: after.spawns) :
    newcomer.isDue = false := by
  refine Bool.eq_false_iff.mpr fun due => ?_
  obtain ⟨execution, caller, rfl, due, ⟨old, own, lane, went⟩ | ⟨pilot, helm, current⟩⟩ :=
    due_arises activity successor player after silent step newcomer member due
  · cases activity with
    | running other caller =>
        obtain rfl : other = old := Option.some.inj own
        have done : (decide (other.lane = .main) && other.isDue) = false := done
        rw [lane, decide_eq_true rfl, Bool.true_and] at done
        cases (other.step_done execution player after done went).symm.trans due
    | _ => cases own
  · refine Bool.eq_false_iff.mp stale ((holds_iff _ _).mpr ⟨pilot, ?_, current.symm⟩)
    rw [helm]
    rfl

theorem Player.visit_flights (player : Player) (generation : Nat) (loaded : Loaded) (steady : loaded.playlist.Steady)
    (there : player.playback.loaded = some loaded) (current : player.playback.generation = generation)
    (silent : player.flights = []) (execution : Execution) (member : execution ∈ (player.visit generation).2.flights) :
    execution.isDue = false := by
  have nobody (same : (player.visit generation).2.flights = player.flights) : execution.isDue = false := by
    rw [same, silent] at member
    cases member
  cases ran : player.playback.executed with
  | true => exact nobody (by simp [visit, current, ran])
  | false =>
      cases found : loaded.playlist.command? player.playback.index with
      | none => exact nobody (by simp [visit, current, ran, there, found])
      | some command =>
          obtain ⟨builtIn, waits⟩ := loaded.playlist.steady_command steady _ command found
          have runs : player.visit generation = player.runCommand generation loaded command := by
            simp [visit, current, ran, there, found]
          cases runs ▸ player.run_command_outcome generation loaded command current with
          | omits _ _ _ flights => exact nobody flights
          | awaits _ _ _ _ _ _ _ _ flights => exact nobody flights
          | detaches started _ _ _ apart own new flights =>
              rw [flights, silent] at member
              obtain rfl := List.mem_singleton.mp member
              rw [(execution.prepared_new new (own ▸ builtIn)).2.1, own]
              refine Bool.eq_false_iff.mpr fun transition => ?_
              cases apart.symm.trans (waits transition)

theorem Player.steer_flights (player : Player) (generation : Nat) (loaded : Loaded) (steady : loaded.playlist.Steady)
    (there : player.playback.loaded = some loaded) (current : player.playback.generation = generation)
    (silent : player.flights = []) (execution : Execution) (member : execution ∈ (player.steerLoop generation).2.flights) :
    execution.isDue = false := by
  unfold steerLoop at member
  split at member
  · split at member
    · rw [show (_, player).2.flights = [] from silent] at member
      cases member
    · rw [after_visit_player] at member
      exact player.visit_flights generation loaded steady there current silent execution member
  · rw [show (_, player).2.flights = [] from silent] at member
    cases member

theorem Player.steer_runs (player : Player) (generation : Nat) (execution : Execution) (caller : Caller)
    (runs : (player.steerLoop generation).1 = .running execution caller) :
    (Activity.running execution caller).holds generation = true := by
  unfold steerLoop at runs
  split at runs
  · split at runs
    · cases runs
    · cases visited : player.visit generation with
      | mk visit between =>
          rw [visited] at runs
          cases visit with
          | running other epoch =>
              rw [← runs]
              exact (holds_iff _ _).mpr ⟨.loop generation, rfl, rfl⟩
          | _ => cases runs
  · cases runs

theorem Piloted.hands {loaded : Loaded} {first generation : Nat} {player after : Player} {door : Option Nat}
    {activity successor : Activity} (steady : loaded.playlist.Steady)
    (piloted : Piloted loaded first generation player door activity) (current : player.playback.generation = generation) (silent : player.outbox = [])
    (step : activity.step? player = some (successor, after)) (newcomer : Activity) (member : newcomer ∈ successor :: after.spawns)
    (due : newcomer.isDue = true) : newcomer.holds generation = true := by
  have quiet : player.flights = [] := by
    rw [Player.flights, silent]
    rfl
  have helm := piloted.helm
  obtain ⟨execution, caller, rfl, due, ⟨old, own, lane, went⟩ | ⟨pilot, rfl, _⟩⟩ :=
    due_arises activity successor player after silent step newcomer member due
  · have nobody : after.flights = [] := (old.step_besides player _ after went).2.trans quiet
    cases activity with
    | running other waits =>
        obtain rfl : other = old := Option.some.inj own
        obtain ⟨rfl, _⟩ := piloted.awaits other waits rfl
        rw [Activity.step?, went] at step
        obtain ⟨rfl, _⟩ := Prod.mk.inj (Option.some.inj step)
        rcases List.mem_cons.mp member with same | spawned
        · rw [same]
          exact (holds_iff _ _).mpr ⟨.loop generation, rfl, rfl⟩
        · have flies := mem_flights spawned rfl
          rw [nobody] at flies
          cases flies
    | _ => cases own
  · obtain rfl := Option.some.inj helm
    have moved : player.steerLoop generation = (successor, after) := Option.some.inj step
    rcases List.mem_cons.mp member with same | spawned
    · exact player.steer_runs generation execution caller (by rw [moved, same])
    · have flies := mem_flights spawned rfl
      obtain rfl : (player.steerLoop generation).2 = after := congrArg Prod.snd moved
      have there := piloted.charted.placed.there
      cases (player.steer_flights generation loaded steady there current quiet execution flies).symm.trans due

-- A script that is played is at its start: no command has run, nothing is masked, and no host has been gone into.
theorem Player.play_begins (player : Player) (script : String) (label : Option String)
    (grown : player.playback.generation < (player.play script label).2.playback.generation) (loaded : Loaded)
    (there : (player.play script label).2.playback.loaded = some loaded) :
    (player.play script label).2.playback.executed = false ∧ (player.play script label).2.playback.masked = false ∧
      ∀ host, (player.play script label).2.isReturnVisit loaded host = false := by
  have entered : Within {} player _ := (entry_edits player script label).within rfl
  unfold play at grown there ⊢
  split at grown
  · next found =>
      rw [found] at entered
      exact absurd grown (Nat.not_lt.mpr (Nat.le_of_eq (entered.pilots rfl).1))
  · next own index between found =>
      simp only [found] at there ⊢
      generalize readied : ({ (between.stop.clearVisits own).moveCaret own index false with
        playback := { ((between.stop.clearVisits own).moveCaret own index false).playback with
          returns := [], masked := false } } : Player) = ready at there ⊢
      have caret : ready.start.2.playback.caret = ready.playback.caret := (Edit.start ready).within.caret rfl
      obtain rfl : own = loaded := by
        have same := (congrArg Caret.loaded caret).symm.trans there
        rw [← readied] at same
        exact Option.some.inj same
      refine ⟨(congrArg Caret.executed caret).trans (by rw [← readied]; rfl), ?_, fun host => ?_⟩
      · have masked := ((Edit.start ready).announces rfl : Announces false ready _).mask rfl
        exact masked.trans (by rw [← readied])
      · have raised : ready.start.2.raised = ready.raised := ((Edit.start ready).spares.wider rfl : Spares {} ready _).raised rfl
        rw [Bool.eq_false_iff, ne_eq, return_visit_iff, raised, ← readied]
        intro member
        exact absurd rfl (of_decide_eq_true (List.mem_filter.mp member).2)

namespace World

-- The run goes on in the same loop, nothing is given up, and every move keeps the course.
def Straight (loaded : Loaded) (world : World) : List Move → Prop
  | [] => True
  | move :: moves =>
      ((∀ activity ∈ world.mover? move, activity.KeepsCourse loaded world.player) ∧
        (world.move move).player.playback.generation = world.player.playback.generation ∧
        (world.move move).player.abandoned = world.player.abandoned) ∧
      (world.move move).Straight loaded moves

instance decidableStraight (loaded : Loaded) (world : World) : (moves : List Move) → Decidable (world.Straight loaded moves)
  | [] => .isTrue trivial
  | move :: moves =>
      have := decidableStraight loaded (world.move move) moves
      inferInstanceAs (Decidable (_ ∧ (world.move move).Straight loaded moves))

-- The transition block that was gone into last, nothing if a transition block has been left since.
def door? (world : World) (door : Option Nat) : List Move → Option Nat
  | [] => door
  | move :: moves =>
      (world.move move).door? ((world.mover? move).elim door fun activity => activity.door world.player door) moves

-- Whoever is there after a move comes from the mover or was there before.
theorem newcomer_or_other {next : World} {successor : Activity} {others : List Activity} {player : Player}
    (activities : next.activities.Subperm (successor :: (others ++ player.spawns))) (activity : Activity)
    (member : activity ∈ next.activities) : activity ∈ successor :: player.spawns ∨ activity ∈ others := by
  have there := activities.subset member
  simp only [List.mem_cons, List.mem_append] at there ⊢
  tauto

-- Whoever holds a generation that has only just begun is the loop that was started for it.
theorem holder_begun {world next : World} {activity successor : Activity} {others : List Activity} {player : Player}
    (led : world.Led) (silent : world.player.outbox = []) (there : world.activities.Perm (activity :: others))
    (activities : next.activities.Subperm (successor :: (others ++ player.spawns))) (idle : successor.pilot? = none)
    (manned : Manned world.player player) (grown : world.player.playback.generation < player.playback.generation)
    (holder : Activity) (member : holder ∈ next.activities) (holds : holder.holds player.playback.generation = true) :
    holder = .steering (.loop player.playback.generation) := by
  obtain ⟨pilot, helm, generation⟩ := (holds_iff _ _).mp holds
  rcases newcomer_or_other activities holder member with new | old
  · rcases List.mem_cons.mp new with rfl | spawned
    · cases idle.symm.trans helm
    · have crew := mem_crew spawned helm
      have quiet : world.player.crew = [] := by
        rw [Player.crew, silent]
        rfl
      cases manned with
      | same same => exact absurd grown (Nat.not_lt.mpr (Nat.le_of_eq same))
      | vacant _ nobody =>
          rw [nobody, quiet] at crew
          cases crew
      | started _ somebody =>
          rw [somebody, quiet] at crew
          exact List.mem_singleton.mp crew
  · have below := led.below holder (there.mem_iff.mpr (List.mem_cons_of_mem _ old)) pilot helm
    exact absurd (Nat.lt_of_lt_of_eq grown generation.symm) (Nat.not_lt.mpr below)

-- Whoever holds the caret is on the course, and nobody else has a transition to come.
structure Voyage (loaded : Loaded) (first generation full : Nat) (world : World) (door : Option Nat) : Prop where
  current : world.player.playback.generation = generation
  layer : world.player.abandoned = full
  pilot : ∀ activity ∈ world.activities, activity.holds generation = true →
    Piloted loaded first generation world.player door activity
  others : ∀ activity ∈ world.activities, activity.holds generation = false → activity.isDue = false

namespace Voyage

variable {loaded : Loaded} {first generation full : Nat} {world next : World} {door : Option Nat}

theorem stays (voyage : Voyage loaded first generation full world door) (clock : Nat) (requests : List Request)
    (player : next.player = { world.player with clock := clock })
    (activities : next.activities.Subperm (requests.map Activity.asked ++ world.activities)) :
    Voyage loaded first generation full next door := by
  refine ⟨by rw [player]; exact voyage.current, by rw [player]; exact voyage.layer, fun activity member holds => ?_,
    fun activity member apart => ?_⟩
  · rcases asked_or_before activities member with ⟨request, rfl⟩ | old
    · cases holds
    · rw [player]
      exact (voyage.pilot activity old holds).kept _ rfl (fun _ => rfl)
        (fun _ charted => charted.kept rfl rfl (fun _ => rfl) rfl rfl) rfl
  · rcases asked_or_before activities member with ⟨request, rfl⟩ | old
    · rfl
    · exact voyage.others activity old apart

section Moves

variable {activity successor : Activity} {others : List Activity} {player : Player} {stage : List (Nat × String)}
  (voyage : Voyage loaded first generation full world door) (silent : world.player.outbox = [])
  (there : world.activities.Perm (activity :: others)) (step : activity.step? world.player = some (successor, player))
  (told : next.player = { player with outbox := [], stage := stage })
  (activities : next.activities.Subperm (successor :: (others ++ player.spawns)))
  (sedate : activity.lands = false) (current : player.playback.generation = world.player.playback.generation)
  (layer : player.abandoned = world.player.abandoned)
include voyage silent there step told activities sedate current layer

theorem pilots (accepted : loaded.playlist.Accepted) (steady : loaded.playlist.Steady) (led : world.Led)
    (held : activity.advancing?.isSome = true → world.player.isReturnVisit loaded world.player.playback.index = true →
      world.player.playback.guardPassed = true)
    (holds : activity.holds generation = true) : Voyage loaded first generation full next (activity.door world.player door) := by
  have own : activity ∈ world.activities := there.mem_iff.mpr List.mem_cons_self
  have piloted := voyage.pilot activity own holds
  have alone := led_alone world led activity others there (voyage.current.symm ▸ holds)
  rw [voyage.current] at alone
  refine ⟨by rw [told]; exact current.trans voyage.current, by rw [told]; exact layer.trans voyage.layer,
    fun holder member steers => ?_, fun other member apart => ?_⟩
  · rcases holder_kept silent step activities current holder member (voyage.current.symm ▸ steers) with ⟨rfl, _⟩ | old
    · have stepped := piloted.steps accepted steady activity voyage.current sedate held step steers layer
      rw [told]
      exact stepped.kept _ rfl (fun _ => rfl) (fun _ charted => charted.kept rfl rfl (fun _ => rfl) rfl rfl) rfl
    · cases (alone holder old).symm.trans steers
  · rcases newcomer_or_other activities other member with new | old
    · refine Bool.eq_false_iff.mpr fun due => Bool.eq_false_iff.mp apart ?_
      exact piloted.hands steady voyage.current silent step other new due
    · exact voyage.others other (there.mem_iff.mpr (List.mem_cons_of_mem _ old)) apart

theorem passes (apart : ∀ run, activity.run? = some run → run.loaded.handle ≠ loaded.handle)
    (stale : activity.holds generation = false) : Voyage loaded first generation full next (activity.door world.player door) := by
  have own : activity ∈ world.activities := there.mem_iff.mpr List.mem_cons_self
  have done := voyage.others activity own stale
  have calm := activity.calm_of_done sedate done
  have stale : activity.holds world.player.playback.generation = false := voyage.current.symm ▸ stale
  have caret := stale_still activity world.player _ step sedate stale
  have outdated (pilot : Pilot) (same : activity = .advancing pilot) :
      world.player.playback.generation ≠ pilot.generation := fun equal => by
    refine Bool.eq_false_iff.mp stale ((holds_iff _ _).mpr ⟨pilot, ?_, equal.symm⟩)
    rw [same]
    rfl
  rw [activity.door_calm world.player door calm]
  refine ⟨by rw [told]; exact current.trans voyage.current, by rw [told]; exact layer.trans voyage.layer,
    fun holder member steers => ?_, fun other member idle => ?_⟩
  · rcases holder_kept silent step activities current holder member (voyage.current.symm ▸ steers) with ⟨_, holds⟩ | old
    · cases stale.symm.trans holds
    · have piloted := voyage.pilot holder (there.mem_iff.mpr (List.mem_cons_of_mem _ old)) steers
      rw [told]
      refine piloted.kept _ caret (step_return_visits activity world.player _ step sedate outdated loaded apart)
        (fun turned charted => ?_) layer
      have kept := step_charted activity world.player _ step sedate outdated calm loaded apart first door turned charted
      exact kept.kept rfl rfl (fun _ => rfl) rfl rfl
  · rcases newcomer_or_other activities other member with new | old
    · exact stale_due activity successor world.player player silent step stale done other new
    · exact voyage.others other (there.mem_iff.mpr (List.mem_cons_of_mem _ old)) idle

end Moves

theorem move (accepted : loaded.playlist.Accepted) (steady : loaded.playlist.Steady) (world : World) (numbered : world.Numbered)
    (led : world.Led) (door : Option Nat) (voyage : Voyage loaded first generation full world door) (move : Move)
    (keeps : ∀ activity ∈ world.mover? move, activity.KeepsCourse loaded world.player)
    (current : (world.move move).player.playback.generation = world.player.playback.generation)
    (layer : (world.move move).player.abandoned = world.player.abandoned) :
    Voyage loaded first generation full (world.move move)
      ((world.mover? move).elim door fun activity => activity.door world.player door) := by
  cases (move_comes world numbered move).1 with
  | stays clock requests player activities _ idle =>
      have same : ((world.mover? move).elim door fun activity => activity.door world.player door) = door := by
        cases mover : world.mover? move with
        | none => rfl
        | some activity => exact activity.door_idle world.player door (idle activity mover)
      rw [same]
      exact voyage.stays clock requests player activities
  | moves activity successor others player stage mover there _ step told activities =>
      obtain ⟨sedate, apart, held⟩ := keeps activity mover
      rw [told] at current layer
      rw [mover]
      cases holds : activity.holds generation with
      | true =>
          exact voyage.pilots numbered.told there step told activities sedate current layer accepted steady led held holds
      | false => exact voyage.passes numbered.told there step told activities sedate current layer apart holds

theorem after (accepted : loaded.playlist.Accepted) (steady : loaded.playlist.Steady) (world : World) (numbered : world.Numbered)
    (led : world.Led) (door : Option Nat) (voyage : Voyage loaded first generation full world door) (moves : List Move)
    (straight : world.Straight loaded moves) :
    Voyage loaded first generation full (world.after moves) (world.door? door moves) := by
  induction moves generalizing world door with
  | nil => exact voyage
  | cons move moves ih =>
      obtain ⟨⟨keeps, current, layer⟩, onward⟩ := straight
      exact ih _ (move_comes world numbered move).2 (move_led world numbered led move) _
        (voyage.move accepted steady world numbered led door move keeps current layer) onward

-- A run that play has just begun: no block has been gone into, and whoever holds the caret is between two commands.
theorem begins (world : World) (numbered : world.Numbered) (led : world.Led)
    (settled : ∀ activity ∈ world.activities, activity.isDue = false) (move : Move) (script : String) (label : Option String)
    (plays : world.mover? move = some (.asked (.play script label)))
    (grown : world.player.playback.generation < (world.move move).player.playback.generation)
    (sound : (world.move move).player.Sound) (loaded : Loaded) (there : (world.move move).player.playback.loaded = some loaded) :
    Voyage loaded (world.move move).player.playback.index (world.move move).player.playback.generation
      (world.move move).player.abandoned (world.move move) none := by
  cases (move_comes world numbered move).1 with
  | stays clock requests player =>
      rw [player] at grown
      exact absurd grown (Nat.lt_irrefl _)
  | moves activity successor others player stage mover before _ step told activities =>
      obtain rfl := Option.some.inj (plays.symm.trans mover)
      have idle : successor.pilot? = none := by
        rw [← show (Player.answer (world.player.play script label)).1 = successor from congrArg Prod.fst (Option.some.inj step)]
        rcases world.player.play script label with ⟨_ | _, _⟩ <;> rfl
      obtain rfl : (world.player.play script label).2 = player :=
        (Player.answer_player _).symm.trans (congrArg Prod.snd (Option.some.inj step))
      rw [told] at grown there sound ⊢
      obtain ⟨unexecuted, unmasked, lowered⟩ := world.player.play_begins script label grown loaded there
      refine ⟨by rw [told], by rw [told], fun holder member holds => ?_, fun other member _ => ?_⟩
      · have steers := holder_begun led numbered.told before activities idle (world.player.play_manned script label) grown holder
          member holds
        rw [steers, told]
        refine .between _ rfl rfl ?_
        rw [unexecuted, Bool.false_and]
        exact .fresh there (sound.bound loaded there) unmasked lowered
      · rcases newcomer_or_other activities other member with new | old
        · exact stale_due _ successor world.player _ numbered.told step rfl rfl other new
        · exact settled other (before.mem_iff.mpr (List.mem_cons_of_mem _ old))

theorem launches (voyage : Voyage loaded first generation full world door) (numbered : world.Numbered) (move : Move) (spot : Spot)
    (starts : (world.move move).player.launches = (spot, .main) :: world.player.launches) :
    world.player.Charted loaded first door false ∧
      ∃ command, loaded.playlist.command? world.player.playback.index = some command ∧ command.spot = spot := by
  cases (move_comes world numbered move).1 with
  | stays clock requests player =>
      rw [player] at starts
      exact absurd starts.symm (List.cons_ne_self _ _)
  | moves activity successor others player stage mover there _ step told _ =>
      rw [told] at starts
      have starts : player.launches = (spot, .main) :: world.player.launches := starts
      cases step_launches step with
      | nothing same =>
          have more : player.mainLaunches = world.player.mainLaunches + 1 := by simp [Player.mainLaunches, starts]
          exact absurd (more.symm.trans same) (Nat.succ_ne_self _)
      | starts pilot helm current unexecuted =>
          subst helm
          have holds : (Activity.steering pilot).holds generation = true :=
            (holds_iff _ _).mpr ⟨pilot, rfl, current.symm.trans voyage.current⟩
          have piloted := voyage.pilot _ (there.mem_iff.mpr List.mem_cons_self) holds
          obtain rfl := Option.some.inj piloted.helm
          have charted : world.player.Charted loaded first door
              (world.player.playback.executed && world.player.playback.guardPassed) := piloted.charted
          rw [unexecuted, Bool.false_and] at charted
          obtain ⟨other, command, here, _, found, own⟩ :=
            main_launch _ world.player _ step (fun trip same => by cases same) spot starts
          obtain rfl := Option.some.inj (charted.placed.there.symm.trans here)
          exact ⟨charted, command, found, own⟩

end Voyage

-- A run that play begins after anything that came before, whoever else moves in it. A command of the main lane starts masked in
-- the transition block that was gone into last, and nowhere else.
theorem mask_covers_transition_bodies (start : World) (numbered : start.Numbered) (nobody : start.activities = [])
    (sound : start.player.Sound) (earlier : List Move) (supplied : start.Supplied earlier)
    (settled : ∀ activity ∈ (start.after earlier).activities, activity.isDue = false)
    (opening : Move) (script : String) (label : Option String)
    (plays : (start.after earlier).mover? opening = some (.asked (.play script label)))
    (goes : (start.after earlier).player.playback.generation <
      ((start.after earlier).move opening).player.playback.generation)
    (loaded : Loaded) (there : ((start.after earlier).move opening).player.playback.loaded = some loaded)
    (steady : loaded.playlist.Steady) (moves : List Move)
    (straight : ((start.after earlier).move opening).Straight loaded moves) (last : Move) (spot : Spot)
    (starts : ((((start.after earlier).move opening).after moves).move last).player.launches =
      (spot, .main) :: (((start.after earlier).move opening).after moves).player.launches) :
    let begun := (start.after earlier).move opening
    let now := (begun.after moves).player
    let veiled := ∃ host, begun.door? none moves = some host ∧ loaded.playlist.Veils host ∧ now.IsWithin loaded host
    now.playback.loaded = some loaded ∧
      (∃ command, loaded.playlist.command? now.playback.index = some command ∧ command.spot = spot) ∧
      (now.playback.masked = true ↔ veiled) ∧ (now.isInstant .main = true ↔ now.playback.mode.skip = true ∨ veiled) ∧
      (loaded.playlist.Unnested → now.presenter.capture.failure = none →
        (∀ host, loaded.playlist.Veils host → ¬loaded.playlist.Encloses host begun.player.playback.index) →
        (veiled ↔ ∃ host, loaded.playlist.Veils host ∧ now.IsWithin loaded host)) := by
  intro begun now veiled
  have led : (start.after earlier).Led :=
    led_after start numbered ⟨by simp [nobody], by simp [holders, nobody]⟩ earlier
  have later : (start.after earlier).Numbered := after_numbered start numbered earlier
  have fair : ∀ activity ∈ (start.after earlier).mover? opening, activity.spoils = false := by
    intro activity mover
    obtain rfl := Option.some.inj (plays.symm.trans mover)
    rfl
  have sound : begun.player.Sound := move_sound _ later opening fair (sound_after start numbered earlier supplied sound)
  have beginning : begun.Numbered := (move_comes _ later opening).2
  have voyage := Voyage.after (sound.accepted loaded there) steady begun beginning (move_led _ later led opening) none
    (Voyage.begins _ later led settled opening script label plays goes sound loaded there) moves straight
  obtain ⟨charted, found⟩ := voyage.launches (after_numbered begun beginning moves) last spot starts
  have masked : now.playback.masked = true ↔ veiled := charted.masked_iff
  refine ⟨charted.placed.there, found, masked, ?_, fun unnested films outside => ⟨?_, ?_⟩⟩
  · rw [← masked]
    simp [Player.isInstant]
  · rintro ⟨host, _, covered⟩
    exact ⟨host, covered⟩
  · rintro ⟨host, veils, within⟩
    exact ⟨host, charted.door_eq unnested films outside host veils within, veils, within⟩

-- The transition block is played in every round of the loop.
def shore : Playlist :=
  ⟨"shore", #[⟨0, ⟨"shore", 0, 0⟩, none, true, .loop (.literal (.bool true))⟩, ⟨1, ⟨"shore", 1, 0⟩, none, true, .transition 0⟩,
    ⟨2, ⟨"shore", 2, 0⟩, none, true, .wait 1000⟩, ⟨1, ⟨"shore", 3, 0⟩, none, true, .wait 1000⟩]⟩

-- One transition block stands in another one, and something comes after it.
def cave : Playlist :=
  ⟨"cave", #[⟨0, ⟨"cave", 0, 0⟩, none, true, .transition 0⟩, ⟨1, ⟨"cave", 1, 0⟩, none, true, .transition 0⟩,
    ⟨2, ⟨"cave", 2, 0⟩, none, true, .label "end"⟩, ⟨1, ⟨"cave", 3, 0⟩, none, true, .wait 1000⟩,
    ⟨0, ⟨"cave", 4, 0⟩, none, true, .stop⟩]⟩

def coast : World where
  player := { draws := ⟨fun _ => 0, 0⟩, library := { scripts := [⟨0, shore⟩, ⟨1, cave⟩], nextHandle := 2 } }

theorem coast_sound : coast.player.Sound := by
  refine ⟨fun loaded member => (Playlist.fault_none_iff _).mp (Option.isNone_iff_eq_none.mp ?_), nofun, nofun⟩
  exact (by decide : ∀ loaded ∈ coast.player.library.scripts, loaded.playlist.fault?.isNone = true) loaded member

-- Up to the wait in the transition block, in the second round.
def secondRound : List Move := .leave :: List.replicate 28 (.thread 0) ++ .pass 1000 :: List.replicate 14 (.thread 0)

theorem second_round_masked :
    let begun := (coast.after [.ask (.play "shore" none)]).move .front
    let now := (begun.after secondRound).player
    shore.Steady ∧ shore.Unnested ∧ begun.Straight ⟨0, shore⟩ secondRound ∧ begun.door? none secondRound = some 1 ∧
      now.playback.index = 2 ∧ now.playback.mode.skip = false ∧ now.playback.masked = true ∧ now.isInstant .main = true := by
  have steady : shore.Steady := by decide
  have unnested : shore.Unnested := by decide
  obtain ⟨straight, door, starts, first, index, skips, films⟩ :
      let begun := (coast.after [.ask (.play "shore" none)]).move .front
      let now := (begun.after secondRound).player
      begun.Straight ⟨0, shore⟩ secondRound ∧ begun.door? none secondRound = some 1 ∧
        ((begun.after secondRound).move (.thread 0)).player.launches = (⟨"shore", 2, 0⟩, .main) :: now.launches ∧
        begun.player.playback.index = 0 ∧ now.playback.index = 2 ∧ now.playback.mode.skip = false ∧
        now.presenter.capture.failure = none := by decide +kernel
  obtain ⟨_, _, masked, instant, covers⟩ := mask_covers_transition_bodies coast (numbered_new _ rfl) rfl coast_sound
    [.ask (.play "shore" none)] (by decide +kernel) (by decide +kernel) .front "shore" none rfl (by decide +kernel) ⟨0, shore⟩ rfl
    steady secondRound straight (.thread 0) ⟨"shore", 2, 0⟩ starts
  have outside (host : Nat) : ¬shore.Encloses host 0 := fun encloses => Nat.not_lt_zero host encloses.1
  have inside : shore.Veils 1 ∧ shore.Encloses 1 2 := by decide
  rw [← first] at outside
  rw [← index] at inside
  have veiled := (covers unnested films fun host _ => outside host).mpr ⟨1, inside.1, .inl inside.2⟩
  exact ⟨steady, unnested, straight, door, index, skips, masked.mpr veiled, instant.mpr (.inr veiled)⟩

-- Where the picture cannot be captured, the wait in the block starts unmasked.
example :
    let dark := { coast.player with presenter := { Presenter.silent with capture := { failure := some (.command "dark") } } }
    let begun := ({ coast with player := dark }.after [.ask (.play "shore" none)]).move .front
    let now := (begun.after (.leave :: List.replicate 10 (.thread 0))).player
    now.playback.index = 2 ∧ shore.Encloses 1 2 ∧ now.playback.masked = false := by decide +kernel

-- Up to the wait behind the inner block.
def pastInner : List Move := .leave :: List.replicate 27 (.thread 0)

-- The return visit of the inner block has turned the mask off, and the wait, still in the body of the outer one, takes its time.
theorem inner_block_lifts_mask :
    let begun := (coast.after [.ask (.play "cave" none)]).move .front
    let now := (begun.after pastInner).player
    cave.Steady ∧ begun.Straight ⟨1, cave⟩ pastInner ∧
      ((begun.after pastInner).move (.thread 0)).player.launches = (⟨"cave", 3, 0⟩, .main) :: now.launches ∧
      now.playback.index = 3 ∧ cave.Veils 0 ∧ cave.Encloses 0 3 ∧ now.playback.masked = false ∧
      now.isInstant .main = false := by
  decide +kernel

end World

end Storyline
