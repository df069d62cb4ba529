import Storyline.Proofs.Course
import Storyline.Proofs.Skipping
import Storyline.Proofs.Supersession

set_option autoImplicit false

/-!
How often a visit of the caret runs its command. A visit is what happens between two moves of the caret. The pilot that has
started the command waits for it and then marks it as run, so it does not start it again. But the mark is made only by the
pilot that waits: one that takes over while the command is in flight finds no mark, and starts the command once more.
-/

namespace Storyline

-- How many commands of the main lane were started.
def Player.mainLaunches (player : Player) : Nat := player.launches.countP fun launch => launch.2 = Lane.main

-- The mark that the command has run is taken away only by a move of the caret.
theorem Shift.stays_executed {activity : Activity} {before after : Player} (shift : Shift activity before after)
    (still : after.playback.epoch = before.playback.epoch) (executed : before.playback.executed = true) :
    after.playback.executed = true := by
  rcases shift.settles still with caret | ⟨_, caret, _⟩
  · exact (congrArg Caret.executed caret).trans executed
  · exact congrArg Caret.executed caret

namespace Player

section Starts

variable (player : Player)

theorem settle_executes (generation epoch : Nat) (passed : Bool) (current : player.playback.generation = generation)
    (same : player.playback.epoch = epoch) : (player.settle generation epoch passed).2.playback.executed = true := by
  rw [settle, if_pos ⟨current, same⟩]

theorem visit_starts (generation : Nat) :
    (player.visit generation).2.launches = player.launches ∨
      (player.playback.generation = generation ∧ player.playback.executed = false ∧
        (∃ spot, (player.visit generation).2.launches = (spot, .main) :: player.launches) ∧
        ((player.visit generation).2.playback.executed = true ∨
          ∃ execution, (player.visit generation).1 = .running execution player.playback.epoch)) := by
  rcases visit_launches player generation with nothing | ⟨loaded, command, there, unexecuted, found, launched⟩
  · exact .inl nothing
  · by_cases current : player.playback.generation = generation
    · refine .inr ⟨current, unexecuted, ⟨command.spot, launched⟩, ?_⟩
      have visited : player.visit generation = player.runCommand generation loaded command := by
        simp [visit, current, unexecuted, there, found]
      have judged : Within {} player (player.passesGuard command).2 := (guard_edits player command).within rfl
      have captured (player : Player) : Within {} player (player.capture command.spot) := (Edit.capture player _).within.wider rfl
      rw [visited, runCommand]
      simp only
      split
      · split
        · exact .inr ⟨_, rfl⟩
        · refine .inl (settle_executes _ generation player.playback.epoch true ?_ ?_)
          · exact ((captured _).pilots rfl).1.trans ((judged.pilots rfl).1.trans current)
          · exact (congrArg Caret.epoch ((captured _).caret rfl)).trans (congrArg Caret.epoch (judged.caret rfl))
      · refine .inl (settle_executes _ generation player.playback.epoch false ?_ ?_)
        · exact (judged.pilots rfl).1.trans current
        · exact congrArg Caret.epoch (judged.caret rfl)
    · rw [visit_stale player generation current] at launched
      exact absurd launched.symm (List.cons_ne_self _ _)

end Starts

end Player

theorem Player.main_launches_cons (player after : Player) (spot : Spot) (launched : after.launches = (spot, .main) :: player.launches) :
    after.mainLaunches = player.mainLaunches + 1 := by
  simp [mainLaunches, launched]

-- What the move of an activity has to do with the commands of the main lane: it starts none, or it is the current pilot that
-- finds the command under the caret not run, and afterwards waits for it or has marked it.
inductive Launches (activity : Activity) (player : Player) (moved : Activity × Player) : Prop where
  | nothing (same : moved.2.mainLaunches = player.mainLaunches)
  | starts (pilot : Pilot) (helm : activity = .steering pilot) (current : player.playback.generation = pilot.generation)
      (unexecuted : player.playback.executed = false) (more : moved.2.mainLaunches = player.mainLaunches + 1)
      (generation : moved.2.playback.generation = player.playback.generation)
      (epoch : moved.2.playback.epoch = player.playback.epoch)
      (goes : moved.2.playback.executed = true ∨
        ∃ execution pilot, moved.1 = .running execution (.pilot pilot player.playback.epoch))

theorem Launches.of_same {activity : Activity} {player : Player} {moved : Activity × Player}
    (same : moved.2.launches = player.launches) : Launches activity player moved :=
  .nothing (congrArg (List.countP _) same)

theorem Launches.after_within {footprint : Footprint} {activity : Activity} {player between : Player} {moved : Activity × Player}
    (within : Within footprint player between) (still : footprint.le { skip := true } = true)
    (launches : Launches activity between moved) : Launches activity player moved := by
  have within := within.wider still
  have caret := within.caret rfl
  have before : between.mainLaunches = player.mainLaunches := congrArg (List.countP _) (within.launches rfl)
  cases launches with
  | nothing same => exact .nothing (same.trans before)
  | starts pilot helm current unexecuted more generation epoch goes =>
      have same : between.playback.epoch = player.playback.epoch := congrArg Caret.epoch caret
      refine .starts pilot helm ((within.pilots rfl).1.symm.trans current) ((congrArg Caret.executed caret).symm.trans unexecuted)
        (before ▸ more) (generation.trans (within.pilots rfl).1) (epoch.trans same) ?_
      rw [← same]
      exact goes

theorem Player.after_visit_launches (player : Player) (pilot next : Pilot) :
    Launches (.steering pilot) player (afterVisit next (player.visit pilot.generation)) := by
  rcases visit_starts player pilot.generation with nothing | ⟨current, unexecuted, ⟨spot, launched⟩, goes⟩
  · refine .of_same ?_
    rw [after_visit_player]
    exact nothing
  · refine .starts pilot rfl current unexecuted ?_ ?_ ?_
      (goes.imp (fun executed => ?_) fun ⟨execution, running⟩ => ⟨execution, next, ?_⟩)
    · rw [after_visit_player]
      exact main_launches_cons _ _ spot launched
    · rw [after_visit_player]
      exact ((visit_edits player pilot.generation).kept.pilots rfl).1
    · rw [after_visit_player]
      rcases visit_settles player pilot.generation with still | ⟨passed, settled, _⟩
      · exact congrArg Caret.epoch still
      · exact congrArg Caret.epoch settled
    · rw [after_visit_player]
      exact executed
    · rw [← Prod.mk.eta (p := player.visit pilot.generation), running]
      rfl

theorem step_launches {activity : Activity} {player : Player} {moved : Activity × Player}
    (step : activity.step? player = some moved) : Launches activity player moved := by
  have within := activity.step_within player moved step
  cases activity with
  | asked request => cases request <;> exact .of_same (within.launches rfl)
  | steering pilot =>
      cases pilot with
      | loop generation =>
          obtain rfl := Option.some.inj step
          unfold Player.steerLoop
          split
          · split
            · exact .of_same rfl
            · exact Player.after_visit_launches player (.loop generation) _
          · exact .of_same rfl
      | trip trip =>
          obtain rfl := Option.some.inj step
          rcases player.steer_trip_cases trip with ⟨log, outcome, ends⟩ | visits
          · rw [ends]
            exact .of_same ((Player.disembark_edits _ _ _).kept.launches rfl)
          · rw [visits]
            exact .after_within player.force_skip_within rfl (Player.after_visit_launches _ (.trip trip) _)
  | running execution caller =>
      cases caller with
      | pilot pilot epoch => exact .of_same (within.launches rfl)
      | _ => exact .of_same ((within.wider execution.footprint_le).launches rfl)
  | transient run =>
      obtain rfl := Option.some.inj step
      rcases Player.step_run_launches player run with same | ⟨spot, beside⟩
      · exact .of_same same
      · exact .nothing (by simp [Player.mainLaunches, beside])
  | _ => exact .of_same (within.launches rfl)

theorem Player.settle_still (player : Player) (generation epoch : Nat) (passed : Bool) :
    (player.settle generation epoch passed).2.playback.generation = player.playback.generation ∧
      (player.settle generation epoch passed).2.playback.epoch = player.playback.epoch := by
  unfold settle
  split <;> exact ⟨rfl, rfl⟩

theorem Player.resume_pilot_marks (player : Player) (pilot : Pilot) (epoch : Nat) (result : Except Error Unit)
    (current : (player.resumeCaller (.pilot pilot epoch) result).2.playback.generation = pilot.generation)
    (still : (player.resumeCaller (.pilot pilot epoch) result).2.playback.epoch = epoch) :
    (player.resumeCaller (.pilot pilot epoch) result).1.pilot? = none ∨
      (player.resumeCaller (.pilot pilot epoch) result).2.playback.executed = true := by
  cases result with
  | ok _ =>
      simp only [resumeCaller, after_visit_player] at current still ⊢
      obtain ⟨generation, same⟩ := player.settle_still pilot.generation epoch true
      exact .inr (player.settle_executes _ _ _ (generation.symm.trans current) (same.symm.trans still))
  | error cause =>
      refine .inl ?_
      cases pilot with
      | loop generation => rfl
      | trip trip =>
          obtain ⟨reply, ends⟩ := player.disembark_finished trip (.error cause)
          simp only [resumeCaller, fail, ends]
          rfl

theorem running_rides (execution : Execution) (pilot : Pilot) (player : Player) (moved : Activity × Player)
    (step : (Activity.running execution (.pilot pilot player.playback.epoch)).step? player = some moved)
    (current : moved.2.playback.generation = pilot.generation) (still : moved.2.playback.epoch = player.playback.epoch) :
    moved.1.pilot? = none ∨ moved.2.playback.executed = true ∨
      ∃ execution, moved.1 = .running execution (.pilot pilot player.playback.epoch) := by
  obtain ⟨⟨progress, between⟩, went, rest⟩ := Option.map_eq_some_iff.mp step
  subst rest
  cases progress with
  | going next => exact .inr (.inr ⟨next, rfl⟩)
  | ended result =>
      rcases Player.resume_pilot_marks _ pilot _ _ current still with nobody | marked
      · exact .inl nobody
      · exact .inr (.inl marked)

namespace World

-- Nobody is going to start the command under the caret: it has run, or whoever holds the caret waits for it.
def Underway (world : World) : Prop :=
  world.player.playback.executed = true ∨
    ∀ activity ∈ world.activities, activity.holds world.player.playback.generation = true →
      ∃ execution pilot, activity = .running execution (.pilot pilot world.player.playback.epoch)

section Moves

variable {world next : World} {activity successor : Activity} {others : List Activity} {player : Player}
  (told : world.player.outbox = []) (step : activity.step? world.player = some (successor, player))
  (activities : next.activities.Subperm (successor :: (others ++ player.spawns)))
include told step activities

-- Whoever holds the generation after a move that begins no new one held it before.
theorem holder_kept (same : player.playback.generation = world.player.playback.generation) (holder : Activity)
    (member : holder ∈ next.activities) (holds : holder.holds world.player.playback.generation = true) :
    (holder = successor ∧ activity.holds world.player.playback.generation = true) ∨ holder ∈ others := by
  obtain ⟨pilot, helm, generation⟩ := (holds_iff _ _).mp holds
  have quiet : world.player.crew = [] := by rw [Player.crew, told]; rfl
  have nobody (crew : player.crew = world.player.crew) : holder ∉ player.spawns := fun spawned =>
    absurd (crew ▸ mem_crew spawned helm) (quiet ▸ List.not_mem_nil)
  have where_ := activities.subset member
  simp only [List.mem_cons, List.mem_append] at where_
  cases step_hands step with
  | keeps _ crew own =>
      rcases where_ with rfl | old | spawned
      · refine .inl ⟨rfl, ?_⟩
        obtain ⟨previous, steered, handed⟩ := Option.map_eq_some_iff.mp (own pilot helm)
        exact (holds_iff _ _).mpr ⟨previous, steered, handed.trans generation⟩
      · exact .inr old
      · exact absurd spawned (nobody crew)
  | leaves gone manned =>
      have crew : player.crew = world.player.crew := by
        cases manned with
        | same _ crew => exact crew
        | vacant grown _ => exact absurd same (Nat.ne_of_gt grown)
        | started grown _ => exact absurd same (Nat.ne_of_gt grown)
      rcases where_ with rfl | old | spawned
      · rw [gone] at helm
        cases helm
      · exact .inr old
      · exact absurd spawned (nobody crew)
  | takes trip _ _ grown _ => exact absurd same (Nat.ne_of_gt grown)

variable (there : world.activities.Perm (activity :: others)) (playback : next.player.playback = player.playback)
include there playback

theorem underway_kept (underway : world.Underway)
    (own : world.player.playback.executed = true ∨
      next.player.playback.generation = world.player.playback.generation)
    (epoch : next.player.playback.epoch = world.player.playback.epoch) : next.Underway := by
  rw [playback] at own epoch
  by_cases marked : player.playback.executed = true
  · exact .inl (playback ▸ marked)
  · have unmarked : world.player.playback.executed ≠ true := fun executed =>
      marked ((step_shift step).stays_executed epoch executed)
    have generation := own.resolve_left unmarked
    have waiting := underway.resolve_left unmarked
    refine .inr fun holder member holds => ?_
    rw [playback, generation] at holds
    rw [playback, epoch]
    rcases holder_kept told step activities generation holder member holds with ⟨rfl, held⟩ | old
    · obtain ⟨execution, pilot, rfl⟩ := waiting activity (there.mem_iff.mpr List.mem_cons_self) held
      obtain ⟨_, helm, current⟩ := (holds_iff _ _).mp held
      obtain rfl := Option.some.inj helm
      rcases running_rides execution pilot world.player _ step (generation.trans current.symm) epoch with
        nobody | executed | ⟨execution, goes⟩
      · obtain ⟨_, steers, _⟩ := (holds_iff _ _).mp holds
        exact absurd (nobody.symm.trans steers) nofun
      · exact absurd executed marked
      · exact ⟨execution, pilot, goes⟩
    · exact waiting holder (there.mem_iff.mpr (List.mem_cons_of_mem _ old)) holds

theorem underway_started (led : world.Led) (held : activity.holds world.player.playback.generation = true)
    (generation : next.player.playback.generation = world.player.playback.generation)
    (epoch : next.player.playback.epoch = world.player.playback.epoch)
    (goes : player.playback.executed = true ∨
      ∃ execution pilot, successor = .running execution (.pilot pilot world.player.playback.epoch)) : next.Underway := by
  rw [playback] at generation epoch
  refine goes.imp (fun executed => playback ▸ executed) fun waits holder member holds => ?_
  rw [playback, generation] at holds
  rw [playback, epoch]
  rcases holder_kept told step activities generation holder member holds with ⟨rfl, _⟩ | old
  · exact waits
  · cases (led_alone world led activity others there held holder old).symm.trans holds

end Moves

-- What a move has to do with the visit: it starts no command of the main lane, or it starts one where nobody had.
theorem move_launches (world : World) (numbered : world.Numbered) (led : world.Led) (move : Move) :
    ((world.move move).player.mainLaunches = world.player.mainLaunches ∧
      (world.Underway →
        (world.player.playback.executed = true ∨
          (world.move move).player.playback.generation = world.player.playback.generation) →
        (world.move move).player.playback.epoch = world.player.playback.epoch → (world.move move).Underway)) ∨
    ((world.move move).player.mainLaunches = world.player.mainLaunches + 1 ∧ ¬world.Underway ∧ (world.move move).Underway) := by
  cases (move_comes world numbered move).1 with
  | stays clock requests player activities =>
      have playback : (world.move move).player.playback = world.player.playback := by rw [player]
      refine .inl ⟨by rw [player]; rfl, fun underway _ _ => ?_⟩
      rw [Underway, playback]
      refine underway.imp_right fun waiting holder member holds => ?_
      rcases asked_or_before activities member with ⟨request, rfl⟩ | old
      · cases holds
      · exact waiting holder old holds
  | moves activity successor others player stage mover there _ step told activities =>
      have playback : (world.move move).player.playback = player.playback := by rw [told]
      have launched : (world.move move).player.mainLaunches = player.mainLaunches := by rw [told]; rfl
      cases step_launches step with
      | nothing same =>
          exact .inl ⟨launched.trans same, underway_kept numbered.told step activities there playback⟩
      | starts pilot helm current unexecuted more generation epoch goes =>
          have held : activity.holds world.player.playback.generation = true :=
            (holds_iff _ _).mpr ⟨pilot, by rw [helm]; rfl, current.symm⟩
          refine .inr ⟨launched.trans more, ?_, ?_⟩
          · rintro (executed | waiting)
            · exact absurd (unexecuted.symm.trans executed) Bool.false_ne_true
            · obtain ⟨_, _, waits⟩ := waiting activity (there.mem_iff.mpr List.mem_cons_self) held
              rw [helm] at waits
              cases waits
          · exact underway_started numbered.told step activities there playback led held (playback ▸ generation)
              (playback ▸ epoch) goes

-- A new generation begins in the visit after more than `started` commands of the main lane were started, and before the
-- command under the caret is marked as run.
def TakenOver (world : World) (started : Nat) (visit : List Move) : Prop :=
  ∃ before takeover after, visit = before ++ takeover :: after ∧
    started < (world.after before).player.mainLaunches ∧
    (world.after before).player.playback.executed = false ∧
    (world.after before).player.playback.generation <
      ((world.after before).move takeover).player.playback.generation

theorem taken_over_cons (world : World) (started : Nat) (move : Move) (visit : List Move)
    (taken : (world.move move).TakenOver started visit) : world.TakenOver started (move :: visit) := by
  obtain ⟨before, takeover, after, rfl, found⟩ := taken
  exact ⟨move :: before, takeover, after, rfl, found⟩

-- The induction is on the visit. Once the command is under way nothing more is started, and before that at most one is.
theorem visit_starts_one (world : World) (numbered : world.Numbered) (led : world.Led) (visit : List Move)
    (still : (world.after visit).player.playback.epoch = world.player.playback.epoch) :
    ((world.after visit).player.mainLaunches ≤ world.player.mainLaunches + 1 ∨
      world.TakenOver world.player.mainLaunches visit) ∧
    ∀ started, started < world.player.mainLaunches → world.Underway →
      (world.after visit).player.mainLaunches ≤ world.player.mainLaunches ∨ world.TakenOver started visit := by
  induction visit generalizing world with
  | nil => exact ⟨.inl (Nat.le_succ _), fun _ _ _ => .inl (Nat.le_refl _)⟩
  | cons move visit ih =>
      have next := (move_comes world numbered move).2
      rw [after_cons] at still ⊢
      have first := epoch_move world numbered move
      have rest := epoch_after _ next visit
      have same : (world.move move).player.playback.epoch = world.player.playback.epoch := by omega
      obtain ⟨open_, closed⟩ := ih _ next (move_led world numbered led move) (by omega)
      have later (started : Nat) := taken_over_cons world started move visit
      rcases move_launches world numbered led move with ⟨nothing, kept⟩ | ⟨more, fresh, underway⟩
      · rw [nothing] at open_ closed
        refine ⟨open_.imp_right (later _), fun started before underway => ?_⟩
        by_cases own : world.player.playback.executed = true ∨
            (world.move move).player.playback.generation = world.player.playback.generation
        · exact (closed started before (kept underway own same)).imp_right (later started)
        · obtain ⟨unmarked, other⟩ := not_or.mp own
          have grown := Nat.lt_of_le_of_ne (generation_after world numbered [move]) (Ne.symm other)
          exact .inr ⟨[], move, visit, rfl, before, Bool.eq_false_iff.mpr unmarked, grown⟩
      · rw [more] at open_ closed
        refine ⟨?_, fun _ _ underway => absurd underway fresh⟩
        exact (closed world.player.mainLaunches (Nat.lt_succ_self _) underway).imp_right (later _)

-- Whatever is asked of a player and in whatever order its activities go on: as long as the caret does not move, at most one
-- command of the main lane is started, unless playback is taken over while that command is in flight.
theorem visit_runs_once_unless_taken_over (start : World) (numbered : start.Numbered) (nobody : start.activities = [])
    (earlier visit : List Move)
    (still : (start.after (earlier ++ visit)).player.playback.epoch = (start.after earlier).player.playback.epoch) :
    let world := start.after earlier
    (start.after (earlier ++ visit)).player.mainLaunches ≤ world.player.mainLaunches + 1 ∨
      world.TakenOver world.player.mainLaunches visit := by
  intro world
  have led : start.Led := ⟨by simp [nobody], by simp [holders, nobody]⟩
  rw [after_append] at still ⊢
  exact (visit_starts_one world (after_numbered start numbered earlier) (led_after start numbered led earlier) visit still).1

def pausing : World where
  player :=
    { draws := ⟨fun _ => 0, 0⟩
      library := { scripts := [⟨0, "s", #[⟨0, {}, none, true, .wait 100⟩]⟩], nextHandle := 1 } }

def opening : List Move := [.ask (.play "s" none), .front, .leave]

-- Playback is stopped and resumed while the command waits.
def resumption : List Move :=
  [.thread 0, .thread 0, .thread 0, .pass 50, .ask .stop, .front, .ask .resume, .front, .leave, .thread 1]

theorem resumed_visit_taken_over :
    (pausing.after (opening ++ resumption)).player.playback.epoch = (pausing.after opening).player.playback.epoch ∧
      (pausing.after opening).TakenOver (pausing.after opening).player.mainLaunches resumption := by
  have still : (pausing.after (opening ++ resumption)).player.playback.epoch = (pausing.after opening).player.playback.epoch := by
    decide +kernel
  refine ⟨still, (visit_runs_once_unless_taken_over pausing (numbered_new _ rfl) rfl opening resumption still).resolve_left ?_⟩
  decide +kernel

-- The new loop starts the command that the first one still waits for.
theorem visit_starts_command_twice :
    let world := pausing.after opening
    let later := world.after resumption
    pausing.Orderly (opening ++ resumption) ∧ later.player.playback.epoch = world.player.playback.epoch ∧
      world.player.launches = [] ∧ later.player.launches = [({}, .main), ({}, .main)] ∧
      later.player.executing.entries.map Executing.Entry.spot = [{}, {}] := by
  decide +kernel

end World

end Storyline
