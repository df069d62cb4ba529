import Storyline.Proofs.Headway
import Storyline.Proofs.Stack

set_option autoImplicit false

/-!
The way back from a call. A call leaves the spot of its command behind, and a return takes the newest spot and puts the caret
on the command there, as one that has run. From there playback goes on as if the call had been a command like any other.
Whatever was called in between has come back before.
-/

namespace Storyline

/-! ### Where commands are -/

-- The command is where it was started, in a script of the library.
structure Execution.InPlace (execution : Execution) (library : Library) : Prop where
  has : library.Has execution.loaded
  command : execution.loaded.playlist.command? execution.index = some execution.command

theorem Execution.InPlace.later {execution next : Execution} {before after : Library} (place : execution.InPlace before)
    (same : next.origin = execution.origin) (grows : before.Grows after) : next.InPlace after := by
  have loaded : next.loaded = execution.loaded := (congrArg Execution.loaded same :)
  have index : next.index = execution.index := (congrArg Execution.index same :)
  refine ⟨?_, ?_⟩
  · rw [loaded]
    exact grows _ place.has
  · rw [loaded, index, (origin_same same).2.1]
    exact place.command

-- The command that a pilot waits for, and the epoch in which it was started.
def Activity.seat? : Activity → Option (Execution × Nat)
  | .running execution (.pilot _ epoch) => some (execution, epoch)
  | _ => none

theorem Activity.seat_running {activity : Activity} {execution : Execution} {epoch : Nat}
    (seat : activity.seat? = some (execution, epoch)) : ∃ pilot, activity = .running execution (.pilot pilot epoch) := by
  unfold seat? at seat
  split at seat
  · obtain ⟨rfl, rfl⟩ := Prod.mk.inj (Option.some.inj seat)
    exact ⟨_, rfl⟩
  · cases seat

-- A command that is awaited was awaited before, or was started under the caret.
inductive SeatedFrom (activity : Activity) (player : Player) (execution : Execution) (epoch : Nat) : Prop where
  | goes (old : Execution) (before : activity.seat? = some (old, epoch)) (same : execution.origin = old.origin)
  | starts (now : epoch = player.playback.epoch) (there : player.playback.loaded = some execution.loaded)
      (index : execution.index = player.playback.index)
      (command : execution.loaded.playlist.command? execution.index = some execution.command)

theorem seat_from (activity : Activity) (player : Player) (successor : Activity) (after : Player)
    (step : activity.step? player = some (successor, after)) (execution : Execution) (epoch : Nat)
    (seat : successor.seat? = some (execution, epoch)) : SeatedFrom activity player execution epoch := by
  obtain ⟨pilot, rfl⟩ := Activity.seat_running seat
  cases activity.step_becomes player _ step with
  | rests _ _ rests => cases rests
  | holds _ _ _ _ _ _ idle => cases idle
  | visits _ _ _ begins => exact .starts begins.epoch begins.loaded begins.index begins.command
  | goes old _ _ between went => exact .goes old rfl (old.step_going execution player between went).1
  | listens _ _ _ _ again => cases again

namespace World

-- Every command that a pilot waits for is where it was started, and the caret has not been ahead of it.
def Seated (world : World) : Prop :=
  ∀ activity ∈ world.activities, ∀ execution epoch, activity.seat? = some (execution, epoch) →
    execution.InPlace world.player.library ∧ epoch ≤ world.player.playback.epoch

theorem move_seated (world : World) (numbered : world.Numbered) (anchored : world.player.Anchored) (move : Move)
    (keeps : ∀ activity ∈ world.mover? move, activity.inserts = false) (seated : world.Seated) : (world.move move).Seated := by
  have grows := (move_grows world numbered move keeps anchored.1).2
  have epoch := epoch_move world numbered move
  have stay (execution : Execution) (at_ : Nat) (before : execution.InPlace world.player.library ∧ at_ ≤ world.player.playback.epoch) :
      execution.InPlace (world.move move).player.library ∧ at_ ≤ (world.move move).player.playback.epoch :=
    ⟨before.1.later rfl grows, Nat.le_trans before.2 epoch⟩
  intro other member execution at_ seat
  cases (move_comes world numbered move).1 with
  | stays clock requests player activities =>
      rcases asked_or_before activities member with ⟨request, rfl⟩ | old
      · cases seat
      · exact stay execution at_ (seated other old execution at_ seat)
  | moves activity successor others player stage mover there _ step told activities =>
      have own : activity ∈ world.activities := there.mem_iff.mpr List.mem_cons_self
      rcases List.mem_cons.mp (activities.subset member) with rfl | member
      · cases seat_from activity world.player other player step execution at_ seat with
        | goes old before same =>
            obtain ⟨place, low⟩ := seated activity own old at_ before
            exact ⟨place.later same grows, Nat.le_trans low epoch⟩
        | starts now there index command =>
            exact stay execution at_ ⟨⟨(anchored.2 _ there).1, command⟩, Nat.le_of_eq now⟩
      · rcases List.mem_append.mp member with old | spawned
        · exact stay execution at_ (seated other (there.mem_iff.mpr (List.mem_cons_of_mem _ old)) execution at_ seat)
        · -- what is started by itself is no pilot
          obtain ⟨notice, sent, same⟩ := List.mem_filterMap.mp spawned
          have strays : player.strays = [] := by
            rw [(activity.step_spares world.player _ step).strays, Player.strays, numbered.told]
            rfl
          have stray : other ∈ player.strays := by
            refine List.mem_filterMap.mpr ⟨notice, List.mem_reverse.mp sent, ?_⟩
            obtain ⟨pilot, rfl⟩ := Activity.seat_running seat
            rw [same]
            rfl
          rw [strays] at stray
          cases stray

end World

/-! ### The return -/

namespace Player

-- Where the command at an index leads once it has run, if it leads anywhere.
def leads? (player : Player) (loaded : Loaded) (index : Nat) : Option Nat :=
  match (loaded.playlist.move player.store.get? index (player.trail loaded)).1 with
  | .ok place => if place < loaded.playlist.length then some place else none
  | .error _ => none

-- What decides where the loop goes on.
def bearings (player : Player) : Playback × Variables × List (Nat × Nat) × Draws :=
  (player.playback, player.store, player.raised, player.draws)

theorem leads_same {before after : Player} (same : after.bearings = before.bearings) (loaded : Loaded) (index : Nat) :
    after.leads? loaded index = before.leads? loaded index := by
  obtain ⟨_, rest⟩ := Prod.mk.inj same
  obtain ⟨store, rest⟩ := Prod.mk.inj rest
  obtain ⟨raised, draws⟩ := Prod.mk.inj rest
  rw [leads?, leads?, trail, trail, store, raised, draws]

theorem go_back_eq (player : Player) (frames : List Spot) (spot : Spot) (stack : player.playback.returns = frames ++ [spot])
    (loaded : Loaded) (index : Nat) (required : player.library.require spot.script = .ok (loaded, player.library))
    (found : loaded.playlist.indexOf? spot = some index) :
    player.goBack =
      ({ player with playback := { player.playback with returns := frames } }.moveCaret loaded index true).tell .stateChanged := by
  unfold goBack
  simp only [stack, List.getLast?_concat, List.dropLast_concat, required, found]
  rfl

end Player

-- The caret goes on in its playlist, or stays where there is nothing to go on to.
def Caret.onward (caret : Caret) (loaded : Loaded) (place : Option Nat) : Caret :=
  place.elim caret fun index => ⟨some loaded, index, false, true, caret.epoch + 1⟩

theorem Player.advance_onward (player : Player) (pilot : Pilot) (loaded : Loaded) (index : Nat)
    (current : player.playback.generation = pilot.generation)
    (caret : player.playback.caret = ⟨some loaded, index, true, true, player.playback.epoch⟩) :
    (player.advancePilot pilot).2.playback.caret = player.playback.caret.onward loaded (player.leads? loaded index) := by
  have there : player.playback.loaded = some loaded := congrArg Caret.loaded caret
  have here : player.playback.index = index := congrArg Caret.index caret
  have ran : player.playback.executed = true := congrArg Caret.executed caret
  have passed : player.playback.guardPassed = true := congrArg Caret.guardPassed caret
  have leads : (player.next loaded index true).1 =
      (loaded.playlist.move player.store.get? index (player.trail loaded)).1 := by
    simp [next, Playlist.advance]
  have followed : (player.next loaded index true).2.playback.caret = player.playback.caret :=
    ((next_edits player loaded index true).within rfl : Within {} _ _).caret rfl
  rw [advance_pilot_caret, advance, if_neg (not_not.mpr current), leads?, ← leads]
  simp only [there, here, ran, passed, if_true]
  generalize player.next loaded index true = next at followed
  obtain ⟨result, after⟩ := next
  cases result with
  | error fault => exact followed
  | ok place =>
      by_cases bound : place < loaded.playlist.length
      · simp only [if_neg (Nat.not_le.mpr bound), if_pos bound]
        rw [((check_skip_edits _ _ _).within rfl : Within {} _ _).caret rfl]
        have epoch : after.playback.epoch = player.playback.caret.epoch := congrArg Caret.epoch followed
        rw [Caret.onward, Option.elim_some, ← epoch]
        rfl
      · simp only [if_pos (Nat.le_of_not_lt bound), if_neg bound]
        exact followed

theorem Execution.next_performs (execution : Execution) (effect : Effect) (next : execution.next? = some effect) (player : Player) :
    execution.wait = none ∧ execution.begun = true ∧ ∃ rest, execution.effects = effect :: rest ∧
      execution.step? player = some ({ execution with effects := rest }.perform effect player) := by
  unfold next? at next
  split at next
  · next ready =>
      obtain ⟨awake, begun⟩ := Bool.and_eq_true_iff.mp ready
      obtain ⟨rest, effects⟩ : ∃ rest, execution.effects = effect :: rest := List.head?_eq_some_iff.mp next
      refine ⟨Option.isNone_iff_eq_none.mp awake, begun, rest, effects, ?_⟩
      rw [step?, Option.isNone_iff_eq_none.mp awake]
      simp only [begun, effects, if_true]
  · cases next

theorem Activity.goes_back_steps (activity : Activity) (player : Player) (back : activity.goesBack = true) :
    ∃ successor, activity.step? player = some (successor, player.goBack) := by
  unfold goesBack at back
  split at back
  · exact ⟨_, rfl⟩
  · next execution caller =>
      cases next : execution.next? with
      | none =>
          rw [next] at back
          cases back
      | some effect =>
          rw [next] at back
          cases effect with
          | goBack =>
              obtain ⟨_, _, rest, _, performs⟩ := execution.next_performs .goBack next player
              exact ⟨.running { execution with effects := rest } caller, by rw [step?, performs]; rfl⟩
          | _ => cases back
  · cases back

theorem Activity.calls_steps (activity : Activity) (player : Player) (target : Target) (spot : Spot)
    (calls : activity.calls? = some (target, spot)) : ∃ moved, activity.step? player = some moved := by
  unfold calls? at calls
  split at calls
  · exact ⟨_, rfl⟩
  · next execution caller =>
      obtain ⟨_, next, _⟩ := Option.map_eq_some_iff.mp calls
      obtain ⟨effect, next, _⟩ := Option.bind_eq_some_iff.mp next
      obtain ⟨_, _, rest, _, performs⟩ := execution.next_performs effect next player
      exact ⟨_, by rw [step?, performs]; rfl⟩
  · cases calls

theorem done_astray (execution : Execution) (player : Player) (generation epoch : Nat) (awake : execution.wait = none)
    (begun : execution.begun = true) (done : execution.effects = []) (moved : player.playback.epoch ≠ epoch) :
    (Activity.running execution (.pilot (.loop generation) epoch)).step? player =
      some (.steering (.loop generation), (player.finish execution (.ok ())).2) := by
  have ends : execution.step? player = some (.ended (.ok ()), player) := by
    simp only [Execution.step?, awake, begun, done, if_true]
  have astray : (player.finish execution (.ok ())).2.settle generation epoch true =
      (.astray, (player.finish execution (.ok ())).2) :=
    if_neg fun same => moved same.2
  rw [Activity.step?, ends]
  show some (Player.afterVisit (.loop generation) ((player.finish execution (.ok ())).2.settle generation epoch true)) = _
  rw [astray]
  rfl

theorem steering_advances (player : Player) (generation : Nat) (live : player.playback.isLive generation = true)
    (waiting : player.playback.mode.waiting = false) (ran : player.playback.executed = true) :
    (Activity.steering (.loop generation)).step? player = some (.advancing (.loop generation), player) := by
  have current : player.playback.generation = generation := of_decide_eq_true (Bool.and_eq_true_iff.mp live).2
  have visited : player.visit generation = (.done, player) := by
    rw [Player.visit, if_neg (not_not.mpr current), if_pos ran]
  show some (player.steerLoop generation) = _
  rw [Player.steerLoop, if_pos live, if_neg (by rw [waiting]; exact Bool.false_ne_true), visited]
  rfl

theorem Shift.stays_run {activity : Activity} {before after : Player} (shift : Shift activity before after)
    (still : after.playback.epoch = before.playback.epoch) (ran : before.playback.executed = true)
    (passed : before.playback.guardPassed = true) : after.playback.caret = before.playback.caret := by
  rcases shift.settles still with caret | ⟨judged, caret, first⟩
  · exact caret
  · obtain rfl : judged = true := first.resolve_right (by simp [Playback.caret, ran])
    rw [caret, Playback.caret, ran, passed]

namespace World

theorem caret_stays (world : World) (numbered : world.Numbered) (moves : List Move)
    (still : (world.after moves).player.playback.epoch = world.player.playback.epoch)
    (ran : world.player.playback.executed = true) (passed : world.player.playback.guardPassed = true) :
    (world.after moves).player.playback.caret = world.player.playback.caret := by
  induction moves generalizing world with
  | nil => rfl
  | cons move moves ih =>
      obtain ⟨comes, moved⟩ := move_comes world numbered move
      have later := epoch_after (world.move move) moved moves
      rw [after_cons] at still
      have first : (world.move move).player.playback.epoch = world.player.playback.epoch :=
        Nat.le_antisymm (still ▸ later) (epoch_move world numbered move)
      have same : (world.move move).player.playback.caret = world.player.playback.caret := by
        cases comes with
        | stays clock requests player => rw [player]
        | moves activity successor others player stage _ _ _ step told _ =>
            rw [told] at first ⊢
            exact (step_shift step).stays_run first ran passed
      rw [after_cons, ih (world.move move) moved (still.trans first.symm) ((congrArg Caret.executed same).trans ran)
        ((congrArg Caret.guardPassed same).trans passed), same]

-- The caret is on a command that has run. Whoever takes it on goes to where the command leads by then.
structure Resumes (world : World) (loaded : Loaded) (index : Nat) : Prop where
  caret : world.player.playback.caret = ⟨some loaded, index, true, true, world.player.playback.epoch⟩
  onward : ∀ moves move pilot, (world.after moves).player.playback.epoch = world.player.playback.epoch →
    (world.after moves).mover? move = some (.advancing pilot) →
    (world.after moves).player.playback.generation = pilot.generation →
    ((world.after moves).move move).player.playback.caret =
      world.player.playback.caret.onward loaded ((world.after moves).player.leads? loaded index)

theorem resumes_of_caret (world : World) (numbered : world.Numbered) (loaded : Loaded) (index : Nat)
    (caret : world.player.playback.caret = ⟨some loaded, index, true, true, world.player.playback.epoch⟩) :
    world.Resumes loaded index := by
  refine ⟨caret, fun moves move pilot still mover current => ?_⟩
  have stays := caret_stays world numbered moves still (congrArg Caret.executed caret) (congrArg Caret.guardPassed caret)
  have moved := after_numbered world numbered moves
  obtain ⟨⟨stage, told⟩, _⟩ := mover_steps moved mover rfl
  rw [told, ← stays]
  exact (world.after moves).player.advance_onward pilot loaded index current (stays.trans (still ▸ caret))

section Back

variable {world : World} (numbered : world.Numbered) (addressed : world.player.library.Addressed) {move : Move}
  {frames : List Spot} {command : Command} (stack : world.player.playback.returns = frames ++ [command.spot])
  {loaded : Loaded} (has : world.player.library.Has loaded) {index : Nat}
  (there : loaded.playlist.command? index = some command)
include numbered addressed stack has there

theorem back_moves (activity : Activity) (mover : world.mover? move = some activity) (back : activity.goesBack = true) :
    ∃ stage, (world.move move).player =
      { world.player with
        playback := { world.player.playback with returns := frames }.setCaret loaded index true
        outbox := [], stage := stage } := by
  obtain ⟨required, found⟩ := has.finds addressed index command there
  obtain ⟨successor, step⟩ := activity.goes_back_steps world.player back
  obtain ⟨⟨stage, told⟩, _⟩ := mover_steps numbered mover step
  rw [world.player.go_back_eq frames command.spot stack loaded index required found] at told
  exact ⟨stage, told⟩

-- The loop that comes back from a call goes on by itself: the return ends, the loop finds that the caret has moved and that
-- the command under it has run, and takes the caret on.
theorem loop_comes_back (execution : Execution) (generation epoch : Nat)
    (mover : world.mover? move = some (.running execution (.pilot (.loop generation) epoch)))
    (low : epoch ≤ world.player.playback.epoch) (back : execution.next?.any Effect.goesBack = true)
    (only : execution.effects = [.goBack]) (live : world.player.playback.isLive generation = true)
    (waiting : world.player.playback.mode.waiting = false) :
    (world.after [move, move, move, move]).player.playback.caret =
      Caret.onward ⟨some loaded, index, true, true, world.player.playback.epoch + 1⟩ loaded
        (world.player.leads? loaded index) := by
  obtain ⟨stage, came⟩ := back_moves numbered addressed stack has there _ mover back
  obtain ⟨effect, next⟩ := Option.isSome_iff_exists.mp (Option.isSome_of_any back)
  obtain ⟨awake, begun, rest, effects, performs⟩ := execution.next_performs effect next world.player
  obtain ⟨rfl, rfl⟩ := List.cons.inj (effects.symm.trans only)
  have first : (Activity.running execution (.pilot (.loop generation) epoch)).step? world.player =
      some (.running { execution with effects := [] } (.pilot (.loop generation) epoch), world.player.goBack) := by
    rw [Activity.step?, performs]
    rfl
  have ending := (mover_steps numbered mover first).2 rfl
  have home := (move_comes world numbered move).2
  have moved : (world.move move).player.playback.epoch = world.player.playback.epoch + 1 := by
    rw [came]
    rfl
  have second := done_astray { execution with effects := [] } (world.move move).player generation epoch awake begun rfl
    (by omega)
  obtain ⟨⟨shown, ended⟩, steers⟩ := mover_steps home ending second
  have looking := (move_comes (world.move move) home move).2
  have same : ((world.move move).move move).player.bearings = (world.move move).player.bearings := by
    rw [ended]
    rfl
  have playback : ((world.move move).move move).player.playback = (world.move move).player.playback := congrArg Prod.fst same
  have third := steering_advances ((world.move move).move move).player generation (by rw [playback, came]; exact live)
    (by rw [playback, came]; exact waiting) (by rw [playback, came]; rfl)
  obtain ⟨⟨last, advancing⟩, advances⟩ := mover_steps looking (steers rfl) third
  have kept : ((world.move move).after [move, move]).player.bearings = (world.move move).player.bearings := by
    refine Eq.trans ?_ same
    show (((world.move move).move move).move move).player.bearings = _
    rw [advancing]
    rfl
  have still : ((world.move move).after [move, move]).player.playback = (world.move move).player.playback :=
    congrArg Prod.fst kept
  have caret : (world.move move).player.playback.caret = ⟨some loaded, index, true, true, world.player.playback.epoch + 1⟩ := by
    rw [came]
    rfl
  have resumes := resumes_of_caret (world.move move) home loaded index (moved ▸ caret)
  have onward := resumes.onward [move, move] move (.loop generation) (by rw [still]) (advances rfl)
    (by rw [still, came]; exact of_decide_eq_true (Bool.and_eq_true_iff.mp live).2)
  rw [caret, Player.leads_same kept] at onward
  refine onward.trans ?_
  rw [came]
  rfl

end Back

/-! ### Where the spots come from -/

-- A spot comes to stand upon others: by a call that leads somewhere, or as part of a save that is taken over.
inductive Pushes (world : World) (move : Move) (frames : List Spot) (spot : Spot) : Prop where
  | called (activity : Activity) (target : Target) (mover : world.mover? move = some activity)
      (calls : activity.calls? = some (target, spot)) (resolved : ¬world.player.Unresolved target)
      (stack : world.player.playback.returns = frames)
  | restored (save : Save) (rollback : Bool) (mover : world.mover? move = some (.draining (.load save rollback)))
      (saved : frames ++ [spot] <+: save.returns)

theorem pushes_of_new (world : World) (numbered : world.Numbered) (move : Move) (frames : List Spot) (spot : Spot)
    (absent : ¬frames ++ [spot] <+: world.player.playback.returns)
    (new : frames ++ [spot] <+: (world.move move).player.playback.returns) : world.Pushes move frames spot := by
  cases (move_comes world numbered move).1 with
  | stays clock requests player =>
      rw [player] at new
      exact absurd new absent
  | moves activity successor others player stage mover _ _ step told _ =>
      have changes := step_stacks step
      rw [told] at new
      have same (kept : player.playback.returns = world.player.playback.returns) : world.Pushes move frames spot :=
        absurd (kept ▸ new) absent
      cases calls : activity.calls? with
      | some call =>
          obtain ⟨target, own⟩ := call
          by_cases lost : world.player.Unresolved target
          · exact same ((changes.calls target own calls).1 lost)
          · have pushed : player.playback.returns = world.player.playback.returns ++ [own] :=
              (changes.calls target own calls).2 lost
            rcases List.prefix_concat_iff.mp (pushed ▸ new) with all | old
            · obtain ⟨stack, top⟩ := List.append_inj' all rfl
              obtain rfl : spot = own := List.singleton_inj.mp top
              exact .called activity target mover calls lost stack.symm
            · exact absurd old absent
      | none =>
          cases back : activity.goesBack with
          | true =>
              have popped : player.playback.returns = world.player.playback.returns.dropLast := changes.back back
              exact absurd (List.IsPrefix.trans (popped ▸ new) (List.dropLast_prefix _)) absent
          | false =>
              cases replaces : activity.stack? with
              | none => exact same (changes.rest calls back replaces)
              | some stack =>
                  rcases changes.stack stack replaces with kept | replaced
                  · exact same kept
                  · have saved : frames ++ [spot] <+: stack := replaced ▸ new
                    have filled : stack ≠ [] := by
                      rintro rfl
                      simp at saved
                    obtain ⟨save, rollback, rfl, own⟩ := activity.stack_saved stack replaces filled
                    exact .restored save rollback mover (own ▸ saved)

-- Since a spot was put on the stack, everything that was put upon it has been taken off again.
theorem frame_pushed (start : World) (numbered : start.Numbered) (uncalled : start.player.playback.returns = [])
    (frames : List Spot) (spot : Spot) (moves : List Move)
    (there : frames ++ [spot] <+: (start.after moves).player.playback.returns) :
    ∃ earlier first later, moves = earlier ++ first :: later ∧ (start.after earlier).Pushes first frames spot ∧
      ∀ between, between <+: later →
        frames ++ [spot] <+: (start.after (earlier ++ first :: between)).player.playback.returns := by
  induction moves using List.reverseRecOn with
  | nil =>
      rw [after_nil, uncalled] at there
      simp at there
  | append_singleton moves move ih =>
      by_cases before : frames ++ [spot] <+: (start.after moves).player.playback.returns
      · obtain ⟨earlier, first, later, rfl, pushes, since⟩ := ih before
        refine ⟨earlier, first, later ++ [move], by simp, pushes, fun between part => ?_⟩
        rcases List.prefix_concat_iff.mp part with rfl | part
        · rwa [← List.cons_append, ← List.append_assoc]
        · exact since between part
      · refine ⟨moves, move, [], rfl, ?_, fun between part => ?_⟩
        · exact pushes_of_new _ (after_numbered start numbered moves) move frames spot before (after_concat start moves move ▸ there)
        · obtain rfl := List.prefix_nil.mp part
          exact there

section Runs

variable (start : World) (numbered : start.Numbered) (nobody : start.activities = [])
  (addressed : start.player.library.Addressed) (nowhere : start.player.playback.loaded = none) (moves : List Move)
  (shelved : start.Shelved moves)
include numbered nobody addressed nowhere shelved

theorem seated_after : (start.after moves).Seated := by
  induction moves using List.reverseRecOn with
  | nil =>
      intro activity member
      rw [after_nil, nobody] at member
      cases member
  | append_singleton moves move ih =>
      obtain ⟨before, last⟩ := (shelved_append start moves [move]).mp shelved
      have anchored := unplaced_anchored start numbered addressed nowhere moves before
      rw [after_concat]
      exact move_seated _ (after_numbered start numbered moves) anchored move last.1 (ih before)

theorem in_place_later (earlier later : List Move) (split : moves = earlier ++ later) (move : Move) (activity : Activity)
    (mover : (start.after earlier).mover? move = some activity) (execution : Execution) (epoch : Nat)
    (seat : activity.seat? = some (execution, epoch)) : execution.InPlace (start.after moves).player.library := by
  subst split
  obtain ⟨before, onward⟩ := (shelved_append start earlier later).mp shelved
  have seated := seated_after start numbered nobody addressed nowhere earlier before
  have place := (seated activity (mover_mem mover) execution epoch seat).1
  have anchored := unplaced_anchored start numbered addressed nowhere earlier before
  rw [after_append]
  exact place.later rfl (grows_after _ (after_numbered start numbered earlier) anchored.1 later onward).2

end Runs

-- Whatever is called and by whom, as long as no script is put in by hand: a call that leads nowhere puts nothing on the
-- stack, and one that leads somewhere the spot of its command. A return takes off the newest spot. Since that spot was put
-- there, everything that came upon it has been taken off. If it is the spot of a command, the caret is on that command then,
-- and goes on to where the command leads; a loop that comes back does so by itself.
theorem return_resumes_after_call (start : World) (numbered : start.Numbered) (nobody : start.activities = [])
    (addressed : start.player.library.Addressed) (nowhere : start.player.playback.loaded = none)
    (uncalled : start.player.playback.returns = []) (moves : List Move) (shelved : start.Shelved moves) (move : Move)
    (activity : Activity) (mover : (start.after moves).mover? move = some activity) :
    let world := start.after moves
    let before := world.player.playback
    let after := (world.move move).player.playback
    (∀ target spot, activity.calls? = some (target, spot) →
      (world.player.Unresolved target → after.returns = before.returns) ∧
      (¬world.player.Unresolved target → after.returns = before.returns ++ [spot])) ∧
    (activity.goesBack = true → ∀ frames spot, before.returns = frames ++ [spot] →
      (∃ earlier first later, moves = earlier ++ first :: later ∧ (start.after earlier).Pushes first frames spot ∧
        (∀ between, between <+: later →
          frames ++ [spot] <+: (start.after (earlier ++ first :: between)).player.playback.returns) ∧
        ∀ execution pilot epoch, (start.after earlier).mover? first = some (.running execution (.pilot pilot epoch)) →
          execution.command.spot = spot ∧ execution.InPlace world.player.library) ∧
      after.returns = frames ∧
      ∀ loaded index command, world.player.library.Has loaded → loaded.playlist.command? index = some command →
        command.spot = spot → (world.move move).Resumes loaded index ∧
          ∀ execution generation epoch, activity = .running execution (.pilot (.loop generation) epoch) →
            execution.effects = [.goBack] → before.isLive generation = true → before.mode.waiting = false →
              (world.after [move, move, move, move]).player.playback.caret =
                Caret.onward ⟨some loaded, index, true, true, before.epoch + 1⟩ loaded (world.player.leads? loaded index)) := by
  intro world before after
  have known : world.Numbered := after_numbered start numbered moves
  have library := (unplaced_anchored start numbered addressed nowhere moves shelved).1
  have changes : ∀ successor player, activity.step? world.player = some (successor, player) →
      Stacks activity world.player player ∧ after.returns = player.playback.returns := by
    intro successor player step
    obtain ⟨⟨stage, told⟩, _⟩ := mover_steps known mover step
    exact ⟨step_stacks step, (congrArg (fun player => player.playback.returns) told :)⟩
  refine ⟨fun target spot calls => ?_, fun back frames spot stack => ⟨?_, ?_, ?_⟩⟩
  · obtain ⟨⟨successor, player⟩, step⟩ := activity.calls_steps world.player target spot calls
    obtain ⟨changes, same⟩ := changes successor player step
    rw [same]
    exact changes.calls target spot calls
  · obtain ⟨earlier, first, later, split, pushes, since⟩ :=
      frame_pushed start numbered uncalled frames spot moves (stack ▸ List.prefix_refl _)
    refine ⟨earlier, first, later, split, pushes, since, fun execution pilot epoch called => ⟨?_, ?_⟩⟩
    · cases pushes with
      | called other target own calls _ _ =>
          obtain rfl := Option.some.inj (called.symm.trans own)
          obtain ⟨_, _, same⟩ := Option.map_eq_some_iff.mp calls
          exact congrArg Prod.snd same
      | restored save rollback own _ => cases called.symm.trans own
    · exact in_place_later start numbered nobody addressed nowhere moves shelved earlier (first :: later) split first _ called
        execution epoch rfl
  · obtain ⟨successor, step⟩ := activity.goes_back_steps world.player back
    obtain ⟨changes, same⟩ := changes successor _ step
    rw [same, changes.back back, show world.player.playback.returns = _ from stack, List.dropLast_concat]
  · rintro loaded index command has there rfl
    obtain ⟨stage, came⟩ := back_moves known library stack has there activity mover back
    refine ⟨resumes_of_caret _ (move_comes world known move).2 loaded index (by rw [came]; rfl), ?_⟩
    rintro execution generation epoch rfl only live waiting
    have seated := seated_after start numbered nobody addressed nowhere moves shelved
    have low := (seated _ (mover_mem mover) execution epoch rfl).2
    exact loop_comes_back known library stack has there execution generation epoch mover low back only live waiting

-- A call is the last command of a loop.
def carousel : World := stocked
  [⟨"road", [{ line := 0, command := "while", parameters := [("cond", (Expr.literal (.bool true)).toJson)] },
      { line := 1, indent := 1, command := "gosub", parameters := [("script", .text "wood")] },
      { line := 2, command := "stop" }]⟩,
    ⟨"wood", [{ line := 0, command := "return" }]⟩]

def onCarousel : List Move := [.ask (.play "road" none), .front, .leave] ++ List.replicate 10 (.thread 0)

-- The return leads to the next round.
theorem next_round_after_return :
    ((carousel.after onCarousel).move (.thread 0)).player.playback.returns = [] ∧
      (∃ earlier first later, onCarousel = earlier ++ first :: later ∧ (carousel.after earlier).Pushes first [] ⟨"road", 1, 0⟩) ∧
      ∃ loaded, loaded.playlist.script = "road" ∧
        ((carousel.after onCarousel).after (List.replicate 4 (.thread 0))).player.playback.caret = ⟨some loaded, 0, false, true, 5⟩ := by
  have addressed : carousel.player.library.Addressed := stocked_addressed _ (by decide +kernel)
  have stored : ((carousel.after onCarousel).player.library.get? "road").map (fun loaded =>
      (loaded.playlist.script, (loaded.playlist.command? 1).map Command.spot,
        (carousel.after onCarousel).player.leads? loaded 1)) = some ("road", some ⟨"road", 1, 0⟩, some 0) := by decide +kernel
  obtain ⟨loaded, got, facts⟩ := Option.map_eq_some_iff.mp stored
  obtain ⟨script, spot, leads⟩ : loaded.playlist.script = "road" ∧
      (loaded.playlist.command? 1).map Command.spot = some ⟨"road", 1, 0⟩ ∧
      (carousel.after onCarousel).player.leads? loaded 1 = some 0 := by simpa using facts
  obtain ⟨command, there, own⟩ := Option.map_eq_some_iff.mp spot
  have has : (carousel.after onCarousel).player.library.Has loaded := by rwa [Library.Has, script]
  -- the return is about to be done, for the loop
  have turns : ((carousel.after onCarousel).mover? (.thread 0)).map (fun activity =>
      (activity.pilot?, activity.seat?.map fun seat => (seat.1.effects.map Effect.goesBack, seat.1.next?.any Effect.goesBack))) =
        some (some (.loop 1), some ([true], true)) := by decide +kernel
  obtain ⟨activity, mover, turning⟩ := Option.map_eq_some_iff.mp turns
  obtain ⟨helm, seat⟩ := Prod.mk.inj turning
  obtain ⟨⟨execution, epoch⟩, seat, effects⟩ := Option.map_eq_some_iff.mp seat
  obtain ⟨pilot, rfl⟩ := Activity.seat_running seat
  obtain rfl : pilot = .loop 1 := Option.some.inj helm
  obtain ⟨only, back⟩ := Prod.mk.inj effects
  obtain ⟨effect, only, goes⟩ := List.map_eq_singleton_iff.mp only
  obtain rfl : effect = .goBack := by
    cases effect with
    | goBack => rfl
    | _ => cases goes
  obtain ⟨_, returns⟩ := return_resumes_after_call carousel (numbered_new _ rfl) rfl addressed rfl rfl onCarousel
    (by decide +kernel) (.thread 0) _ mover
  obtain ⟨⟨earlier, first, later, split, pushes, _⟩, popped, resumes⟩ := returns back [] ⟨"road", 1, 0⟩ (by decide +kernel)
  have onward := (resumes loaded 1 command has there own).2 execution 1 epoch rfl only (by decide +kernel) (by decide +kernel)
  refine ⟨popped, ⟨earlier, first, later, split, pushes⟩, loaded, script, ?_⟩
  have epoch : (carousel.after onCarousel).player.playback.epoch = 3 := by decide +kernel
  rw [leads, epoch] at onward
  exact onward

end World

end Storyline
