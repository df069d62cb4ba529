import Storyline.Proofs.Interleaving
import Storyline.Proofs.Succession

set_option autoImplicit false

/-!
Who moves the caret. Every main loop and every trip holds a generation; at most one holds the player's own, and a loop starts
commands only while the player plays.
-/

namespace Storyline

/-! ### New generations -/

-- What becomes of the generation: it stays, or a new one begins, and a new loop may hold it.
inductive Manned (before after : Player) : Prop where
  | same (generation : after.playback.generation = before.playback.generation) (crew : after.crew = before.crew)
  | vacant (grown : before.playback.generation < after.playback.generation) (crew : after.crew = before.crew)
  | started (grown : before.playback.generation < after.playback.generation)
      (crew : after.crew = .steering (.loop after.playback.generation) :: before.crew)

namespace Manned

variable {footprint : Footprint} {before between after : Player}

theorem of_within (within : Within footprint before after) (still : footprint.pilots = false) : Manned before after :=
  .same (within.pilots still).1 (within.pilots still).2

theorem after_within (within : Within footprint before between) (still : footprint.pilots = false)
    (manned : Manned between after) : Manned before after := by
  obtain ⟨generation, crew⟩ := within.pilots still
  cases manned with
  | same again more => exact .same (again.trans generation) (more.trans crew)
  | vacant grown more => exact .vacant (generation ▸ grown) (more.trans crew)
  | started grown more => exact .started (generation ▸ grown) (crew ▸ more)

end Manned

namespace Player

section Manned

variable (player : Player)

theorem start_manned : Manned player player.start.2 := by
  unfold start
  split
  · exact .same rfl rfl
  · split
    · exact .same rfl rfl
    · exact .started (Nat.lt_succ_self _) rfl

theorem play_manned (script : String) (label : Option String) : Manned player (player.play script label).2 := by
  have entered : Within {} player _ := (entry_edits player script label).within rfl
  unfold play
  split
  · next found => rw [found] at entered; exact .of_within entered rfl
  · next loaded index between found =>
      rw [found] at entered
      have moved : Within { caret := true, playing := true } player
          ((between.stop.clearVisits loaded).moveCaret loaded index false) :=
        (((entered.wider rfl).trans ((Edit.stop _ .requested (by decide)).within.wider rfl)).trans ((clear_visits_edit _ loaded).within.wider rfl)).trans
          ((Edit.caret _ loaded index false).within.wider rfl)
      have fresh (ready : Player) : Within { returns := true } ready
          { ready with playback := { ready.playback with returns := [], masked := false } } :=
        ⟨fun _ => rfl, fun _ => rfl, fun _ => ⟨rfl, rfl⟩, fun _ => id, rfl, fun _ => rfl, fun _ => rfl, nofun⟩
      exact .after_within moved rfl (.after_within (fresh _) rfl (start_manned _))

theorem disembark_manned (trip : Trip) (outcome : Except Error Bool) : Manned player (player.disembark trip outcome).2 := by
  have restored : Within {} player _ := (restored_edits player trip).within rfl
  unfold disembark
  generalize (if trip.wasSkipping = true then player else player.disableSkip) = between at restored
  simp only
  split
  · exact .of_within restored rfl
  · split
    · have started := Manned.after_within restored rfl (start_manned between)
      split
      · next found => rw [found] at started; exact started
      · next found => rw [found] at started; exact started
    · exact .of_within restored rfl

theorem clear_manned : Manned player player.clear := by
  have within : Within {} { player with playback := player.playback.clear } _ :=
    (clear_all_visits_edits _ player.library.scripts).within rfl
  obtain ⟨generation, crew⟩ := within.pilots rfl
  refine .vacant ?_ crew
  have grown : player.clear.playback.generation = player.playback.generation + 1 := generation
  omega

theorem adopt_manned (save : Save) : Manned player (player.adopt save).2 := by
  obtain ⟨told, edits, _, ⟨_, started⟩ | same⟩ := adopt_cases player save
  · exact started ▸ .after_within edits.kept rfl (start_manned told)
  · exact same ▸ .of_within edits.kept rfl

theorem restore_manned (save : Save) : Manned player (player.restore save).2 := by
  unfold restore
  split
  · next nowhere =>
      obtain ⟨told, edits, _, ⟨somewhere, _⟩ | same⟩ :=
        adopt_cases { player with playback := player.playback.clear } save
      · exact absurd nowhere somewhere
      · obtain ⟨generation, crew⟩ := edits.kept.pilots rfl
        rw [same]
        refine .vacant ?_ crew
        rw [generation]
        exact Nat.lt_succ_self _
  · next spot _ =>
      have placed : Within {} player _ := (place_edits player spot).within rfl
      split
      · next found => rw [found] at placed; exact .of_within placed rfl
      · next loaded index between found =>
          rw [found] at placed
          exact .after_within (placed.trans ((clear_visits_edit _ loaded).within.wider rfl)) rfl
            (.after_within (Edit.caret _ loaded index save.executed).within rfl (adopt_manned _ save))

theorem replace_manned (replacement : Replacement) : Manned player (player.replace replacement).2 := by
  cases replacement with
  | reset => exact clear_manned player
  | load save rollback =>
      have restored := restore_manned player save
      rw [replace_load]
      exact restored

end Manned

end Player

/-! ### Where a generation is handed on -/

-- A pilot keeps its generation, or leaves; only a trip takes a new one.
inductive Hands (own : Option Nat) (before : Player) (successor : Activity) (after : Player) : Prop where
  | keeps (generation : after.playback.generation = before.playback.generation) (crew : after.crew = before.crew)
      (pilot : ∀ pilot, successor.pilot? = some pilot → own = some pilot.generation)
  | leaves (nobody : successor.pilot? = none) (manned : Manned before after)
  | takes (trip : Trip) (helm : successor = .steering (.trip trip)) (current : trip.generation = after.playback.generation)
      (grown : before.playback.generation < after.playback.generation) (crew : after.crew = before.crew)

-- The generation stays, or no pilot comes after.
def Abides (before : Player) (moved : Activity × Player) : Prop :=
  (moved.1.pilot? = none ∧ Manned before moved.2) ∨
    (moved.2.playback.generation = before.playback.generation ∧ moved.2.crew = before.crew)

theorem Abides.after_within {footprint : Footprint} {before between : Player} {moved : Activity × Player}
    (within : Within footprint before between) (still : footprint.pilots = false) (abides : Abides between moved) :
    Abides before moved := by
  obtain ⟨generation, crew⟩ := within.pilots still
  exact abides.imp (fun leaves => ⟨leaves.1, .after_within within still leaves.2⟩)
    fun keeps => ⟨keeps.1.trans generation, keeps.2.trans crew⟩

theorem execution_footprint_pilots (execution : Execution) : execution.footprint.pilots = false := by
  unfold Execution.footprint
  cases execution.next? with
  | none => rfl
  | some effect => cases effect <;> rfl

theorem Activity.rests_nobody (activity : Activity) (rests : activity.rests = true) : activity.pilot? = none := by
  cases activity with
  | asked _ | deferred _ _ | transient _ => rfl
  | steering _ | advancing _ | awaitingInput _ _ _ | running _ _ => cases rests
  | _ => rfl

def Activity.isBoarding : Activity → Bool
  | .completing _ (.travel _) => true
  | _ => false

-- Whoever is at the helm was there before, unless it sets out on a trip.
theorem Activity.Becomes.helm {player : Player} {activity successor : Activity} (becomes : activity.Becomes player successor)
    (stays : activity.isBoarding = false) (next : Pilot) (held : successor.pilot? = some next) :
    activity.pilot?.map Pilot.generation = some next.generation := by
  cases becomes with
  | rests _ _ rests => cases (Activity.rests_nobody _ rests).symm.trans held
  | holds _ _ pilot _ helm hold _ same =>
      obtain rfl := Option.some.inj (hold.symm.trans held)
      rw [helm]
      rcases same with rfl | rfl
      · rfl
      · rw [Pilot.onward_generation]
        rfl
  | visits pilot execution epoch =>
      obtain rfl := Option.some.inj held
      exact congrArg some pilot.onward_generation.symm
  | goes _ _ caller =>
      cases caller with
      | pilot own epoch =>
          obtain rfl := Option.some.inj held
          rfl
      | _ => cases held
  | listens _ _ inlet _ again =>
      cases successor with
      | steering _ | advancing _ | awaitingInput _ _ _ | running _ _ => cases again
      | _ => cases held
  | embarks _ _ _ => cases stays
  | _ => cases held

namespace Player

section Hands

variable (player : Player)

theorem ask_manned (request : Request) : Manned player (player.ask request).2 := by
  cases request with
  | play script label => exact (answer_player _).symm ▸ play_manned player script label
  | resume => exact (answer_player _).symm ▸ start_manned player
  | _ => exact .of_within (ask_within player _) rfl

theorem disembark_abides (trip : Trip) (outcome : Except Error Bool) : Abides player (player.disembark trip outcome) := by
  obtain ⟨reply, finished⟩ := disembark_finished player trip outcome
  exact .inl ⟨by rw [finished]; rfl, disembark_manned player trip outcome⟩

theorem steer_trip_abides (trip : Trip) : Abides player (player.steerTrip trip) := by
  rcases player.steer_trip_cases trip with ⟨log, outcome, ends⟩ | visits
  · have aside : Within {} player { player with log := log } := .beside rfl rfl rfl rfl
    exact ends ▸ (disembark_abides _ _ _).after_within aside rfl
  · have forced : Within { caret := true, skip := true, played := true, launches := true } player _ :=
      player.force_skip_within.wider rfl
    have visited := forced.trans ((visit_edits _ trip.generation).within rfl)
    exact visits ▸ .inr (((after_visit_player _ _).symm ▸ visited).pilots rfl)

theorem fail_abides (pilot : Pilot) (cause : Error) : Abides player (player.fail pilot cause) := by
  cases pilot with
  | loop generation => exact .inr ((halt_edits player generation cause).kept.pilots rfl)
  | trip trip => exact disembark_abides _ _ _

theorem advance_pilot_abides (pilot : Pilot) : Abides player (player.advancePilot pilot) := by
  have advanced := (advance_edits player pilot.generation).kept
  have warned (player : Player) (text : String) : Within {} player (player.warn text) := logged_within _ _ _
  unfold advancePilot
  split
  · next found => rw [found] at advanced; exact .inr (advanced.pilots rfl)
  · next found => rw [found] at advanced; exact (fail_abides _ _ _).after_within advanced rfl
  · next found => rw [found] at advanced; exact .inr (advanced.pilots rfl)
  · next found =>
      rw [found] at advanced
      exact Abides.after_within advanced rfl (.inr ((end_loop_edits _ _).kept.pilots rfl))
  · next found =>
      rw [found] at advanced
      exact ((disembark_abides _ _ _).after_within (warned _ _) rfl).after_within advanced rfl
  · next found =>
      rw [found] at advanced
      exact ((disembark_abides _ _ _).after_within (warned _ _) rfl).after_within advanced rfl

theorem resume_caller_abides (caller : Caller) (result : Except Error Unit) : Abides player (player.resumeCaller caller result) := by
  cases caller with
  | nobody => exact .inr ⟨rfl, rfl⟩
  | run run => exact .inr (((resume_caller_edits player (.run run) result).within rfl : Within {} _ _).pilots rfl)
  | pilot pilot epoch =>
      cases result with
      | error cause => exact fail_abides _ _ _
      | ok _ =>
          simp only [resumeCaller]
          exact .inr (((after_visit_player _ _).symm ▸ (settle_edits player pilot.generation epoch true).kept).pilots rfl)

end Hands

end Player

variable {activity successor : Activity} {player after : Player}
  (step : activity.step? player = some (successor, after))

include step in
theorem step_hands : Hands (activity.pilot?.map Pilot.generation) player successor after := by
  have becomes := activity.step_becomes player _ step
  have abides (stays : activity.isBoarding = false) (abides : Abides player (successor, after)) :
      Hands (activity.pilot?.map Pilot.generation) player successor after :=
    abides.elim (fun leaves => .leaves leaves.1 leaves.2) fun keeps => .keeps keeps.1 keeps.2 (becomes.helm stays)
  have within := activity.step_within player _ step
  cases activity with
  | asked request =>
      obtain ⟨rfl, rfl⟩ := Prod.mk.inj (Option.some.inj step)
      exact .leaves (Activity.rests_nobody _ (player.ask_rests request)) (player.ask_manned request)
  | steering pilot =>
      cases pilot with
      | loop generation => exact abides rfl (.inr (within.pilots rfl))
      | trip trip => exact abides rfl (Option.some.inj step ▸ player.steer_trip_abides trip)
  | advancing pilot => exact abides rfl (Option.some.inj step ▸ player.advance_pilot_abides pilot)
  | running execution caller =>
      obtain ⟨⟨progress, between⟩, moved, rest⟩ := Option.map_eq_some_iff.mp step
      have went := Execution.step_within execution player progress between moved
      have pilots := execution_footprint_pilots execution
      cases progress with
      | going next => exact abides rfl (rest ▸ .inr (went.pilots pilots))
      | ended result =>
          have finished : Within {} between (between.finish execution result).2 := (Player.finish_edits _ _ _).within rfl
          exact abides rfl (rest ▸ ((Player.resume_caller_abides _ caller _).after_within finished rfl).after_within went pilots)
  | completing role sequel =>
      obtain ⟨left, leaves, rest⟩ := Option.map_eq_some_iff.mp step
      have gone : Within {} player left := (Player.leave_rendezvous_edits player role none left leaves).within rfl
      obtain ⟨generation, crew⟩ := (gone.trans ((Player.released_edits left).within rfl)).pilots rfl
      obtain ⟨rfl, rfl⟩ := Prod.mk.inj rest
      cases sequel with
      | travel trip => exact .takes _ rfl rfl (generation ▸ Nat.lt_succ_self _) crew
      | reply => exact abides rfl (.inr ⟨generation, crew⟩)
      | listen inlet => exact abides rfl (.inr ⟨generation, crew⟩)
  | draining replacement =>
      obtain ⟨rfl, rfl⟩ := Prod.mk.inj (Activity.draining_step step)
      exact .leaves rfl (player.replace_manned replacement)
  | finished reply => cases step
  | _ => exact abides rfl (.inr (within.pilots rfl))

/-! ### At most one pilot holds the generation -/

def Activity.holds (activity : Activity) (generation : Nat) : Bool :=
  activity.pilot?.any fun pilot => pilot.generation = generation

theorem holds_iff (activity : Activity) (generation : Nat) :
    activity.holds generation = true ↔ ∃ pilot, activity.pilot? = some pilot ∧ pilot.generation = generation := by
  simp [Activity.holds, Option.any_eq_true]

theorem mem_crew {player : Player} {activity : Activity} (spawned : activity ∈ player.spawns) {pilot : Pilot}
    (helm : activity.pilot? = some pilot) : activity ∈ player.crew := by
  obtain ⟨notice, told, same⟩ := List.mem_filterMap.mp spawned
  refine List.mem_filterMap.mpr ⟨notice, List.mem_reverse.mp told, ?_⟩
  simp [Notice.pilot?, same, helm]

theorem count_spawns (player : Player) (generation : Nat) :
    player.spawns.countP (fun activity => activity.holds generation) =
      player.crew.countP fun activity => activity.holds generation := by
  rw [Player.spawns, List.filterMap_reverse, List.countP_reverse, Player.crew]
  induction player.outbox with
  | nil => rfl
  | cons notice notices ih =>
      cases spawned : notice.spawned? with
      | none => simpa [spawned, Notice.pilot?] using ih
      | some activity =>
          cases helm : activity.pilot? with
          | none => simpa [spawned, Notice.pilot?, helm, Activity.holds] using ih
          | some pilot =>
              have named : notice.pilot? = some activity := by simp [Notice.pilot?, spawned, helm]
              simp [spawned, named, List.countP_cons, ih]

namespace World

def holders (world : World) (generation : Nat) : Nat := world.activities.countP fun activity => activity.holds generation

structure Led (world : World) : Prop where
  below : ∀ activity ∈ world.activities, ∀ pilot, activity.pilot? = some pilot →
    pilot.generation ≤ world.player.playback.generation
  single : world.holders world.player.playback.generation ≤ 1

-- Beside whoever holds the caret nobody else does.
theorem led_alone (world : World) (led : world.Led) (activity : Activity) (others : List Activity)
    (there : world.activities.Perm (activity :: others)) (held : activity.holds world.player.playback.generation = true)
    (other : Activity) (member : other ∈ others) : other.holds world.player.playback.generation = false := by
  refine Bool.eq_false_iff.mpr fun also => ?_
  have single := led.single
  rw [holders, there.countP_eq, List.countP_cons, if_pos held] at single
  have more : 0 < others.countP fun activity => activity.holds world.player.playback.generation :=
    List.countP_pos_iff.mpr ⟨other, member, also⟩
  omega

-- Nobody holds a generation that has only just begun.
theorem count_grown (activities : List Activity) (old new : Nat) (grown : old < new)
    (below : ∀ activity ∈ activities, ∀ pilot, activity.pilot? = some pilot → pilot.generation ≤ old) :
    activities.countP (fun activity => activity.holds new) = 0 := by
  refine List.countP_eq_zero.mpr fun activity member held => ?_
  obtain ⟨pilot, helm, same⟩ := (holds_iff activity new).mp held
  have := below activity member pilot helm
  omega

theorem led_stays (world next : World) (led : world.Led) (clock : Nat) (requests : List Request)
    (player : next.player = { world.player with clock := clock })
    (activities : next.activities.Subperm (requests.map Activity.asked ++ world.activities)) : next.Led := by
  have generation : next.player.playback.generation = world.player.playback.generation := by rw [player]
  constructor
  · intro activity member pilot helm
    rcases asked_or_before activities member with ⟨request, rfl⟩ | old
    · cases helm
    · exact generation ▸ led.below activity old pilot helm
  · rw [holders, generation]
    exact Nat.le_trans (count_stays activities _ fun _ => rfl) led.single

section Moves

variable {world next : World} {activity successor : Activity} {others : List Activity} {player : Player}

-- What a move has to show: nobody is ahead of the generation, and of the successor, the others and the newcomers at most
-- one holds it.
theorem led_of (generation : next.player.playback.generation = player.playback.generation)
    (activities : next.activities.Subperm (successor :: (others ++ player.spawns)))
    (first : ∀ pilot, successor.pilot? = some pilot → pilot.generation ≤ player.playback.generation)
    (rest : ∀ other ∈ others, ∀ pilot, other.pilot? = some pilot → pilot.generation ≤ player.playback.generation)
    (crew : ∀ other ∈ player.crew, ∀ pilot, other.pilot? = some pilot → pilot.generation ≤ player.playback.generation)
    (single : (successor :: (others ++ player.crew)).countP (fun activity => activity.holds player.playback.generation) ≤ 1) :
    next.Led := by
  constructor
  · intro activity member pilot helm
    rw [generation]
    rcases List.mem_cons.mp (activities.subset member) with rfl | member
    · exact first pilot helm
    · rcases List.mem_append.mp member with old | new
      · exact rest activity old pilot helm
      · exact crew activity (mem_crew new helm) pilot helm
  · have fewer := activities.countP_le fun activity => activity.holds player.playback.generation
    rw [List.countP_cons, List.countP_append] at fewer single
    rw [count_spawns] at fewer
    rw [holders, generation]
    exact Nat.le_trans fewer single

variable (led : world.Led) (there : world.activities.Perm (activity :: others))
  (generation : next.player.playback.generation = player.playback.generation)
  (activities : next.activities.Subperm (successor :: (others ++ player.spawns)))
include led there generation activities

theorem led_keeps (same : player.playback.generation = world.player.playback.generation) (crew : player.crew = [])
    (own : ∀ pilot, successor.pilot? = some pilot → activity.pilot?.map Pilot.generation = some pilot.generation) :
    next.Led := by
  have below := led.below
  have before := led.single
  simp only [holders, there.countP_eq, there.mem_iff, ← same] at below before
  refine led_of generation activities (fun pilot helm => ?_)
    (fun other member => below other (List.mem_cons_of_mem _ member)) (by simp [crew]) ?_
  · obtain ⟨mine, helm, equal⟩ := Option.map_eq_some_iff.mp (own pilot helm)
    exact equal ▸ below activity List.mem_cons_self mine helm
  · rw [crew, List.append_nil]
    refine Nat.le_trans ?_ before
    rw [List.countP_cons, List.countP_cons]
    refine Nat.add_le_add_left ?_ _
    by_cases held : successor.holds player.playback.generation = true
    · obtain ⟨pilot, helm, current⟩ := (holds_iff _ _).mp held
      obtain ⟨mine, helm, equal⟩ := Option.map_eq_some_iff.mp (own pilot helm)
      have also := (holds_iff activity player.playback.generation).mpr ⟨mine, helm, equal.trans current⟩
      refine Nat.le_of_eq ?_
      rw [if_pos held, if_pos also]
    · rw [if_neg held]
      exact Nat.zero_le _

theorem led_grows (grown : world.player.playback.generation < player.playback.generation) (new : List Activity)
    (who : new = successor :: player.crew) (crowd : new.countP (fun activity => activity.pilot?.isSome) ≤ 1)
    (current : ∀ activity ∈ new, ∀ pilot, activity.pilot? = some pilot → pilot.generation = player.playback.generation) :
    next.Led := by
  have below : ∀ other ∈ others, ∀ pilot, other.pilot? = some pilot → pilot.generation ≤ world.player.playback.generation :=
    fun other member => led.below other (there.mem_iff.mpr (List.mem_cons_of_mem _ member))
  have old := count_grown others _ _ grown below
  subst who
  refine led_of generation activities (fun pilot helm => Nat.le_of_eq (current _ List.mem_cons_self pilot helm))
    (fun other member pilot helm => Nat.le_trans (below other member pilot helm) (Nat.le_of_lt grown))
    (fun other member pilot helm => Nat.le_of_eq (current other (List.mem_cons_of_mem _ member) pilot helm)) ?_
  have held := List.countP_mono_left (l := successor :: player.crew)
    (p := fun activity => activity.holds player.playback.generation) (q := fun activity => activity.pilot?.isSome)
    fun activity _ held => by
      obtain ⟨pilot, helm, _⟩ := (holds_iff _ _).mp held
      exact helm ▸ rfl
  rw [List.countP_cons, List.countP_append, old]
  rw [List.countP_cons] at held
  omega

theorem led_moves (told : world.player.outbox = []) (step : activity.step? world.player = some (successor, player)) :
    next.Led := by
  have none_yet : world.player.crew = [] := by rw [Player.crew, told]; rfl
  cases step_hands step with
  | keeps same crew own => exact led_keeps led there generation activities same (crew.trans none_yet) own
  | leaves nobody manned =>
      cases manned with
      | same same crew =>
          exact led_keeps led there generation activities same (crew.trans none_yet) (by simp [nobody])
      | vacant grown crew =>
          refine led_grows led there generation activities grown [successor] (by rw [crew, none_yet]) ?_ ?_
          · exact List.countP_le_length
          · intro activity member pilot helm
            obtain rfl := List.mem_singleton.mp member
            cases nobody.symm.trans helm
      | started grown crew =>
          refine led_grows led there generation activities grown _ (by rw [crew, none_yet]) ?_ ?_
          · rw [List.countP_cons_of_neg (by simp [nobody])]
            exact List.countP_le_length
          · intro activity member pilot helm
            rcases List.mem_cons.mp member with rfl | member
            · cases nobody.symm.trans helm
            · obtain rfl := List.mem_singleton.mp member
              obtain rfl := Option.some.inj helm
              rfl
  | takes trip helm current grown crew =>
      refine led_grows led there generation activities grown [successor] (by rw [crew, none_yet]) ?_ ?_
      · exact List.countP_le_length
      · intro activity member pilot helmed
        obtain rfl := List.mem_singleton.mp member
        rw [helm] at helmed
        obtain rfl := Option.some.inj helmed
        exact current

end Moves

theorem move_led (world : World) (numbered : world.Numbered) (led : world.Led) (move : Move) : (world.move move).Led := by
  cases (move_comes world numbered move).1 with
  | stays clock requests player activities => exact led_stays world _ led clock requests player activities
  | moves activity successor others player stage _ there _ step told activities =>
      exact led_moves led there (by rw [told]) activities numbered.told step

theorem led_after (world : World) (numbered : world.Numbered) (led : world.Led) (moves : List Move) :
    (world.after moves).Led := by
  induction moves generalizing world with
  | nil => exact led
  | cons move moves ih => exact ih _ (move_comes world numbered move).2 (move_led world numbered led move)

end World

-- A main loop starts commands between two commands only, and only where it may go on.
include step in
theorem loop_launches (generation : Nat) (helm : activity.pilot? = some (.loop generation))
    (launches : after.launches ≠ player.launches) :
    player.playback.isLive generation = true ∧ player.playback.mode.waiting = false := by
  have within := activity.step_within player _ step
  cases activity with
  | steering pilot =>
      obtain rfl := Option.some.inj helm
      have moved : player.steerLoop generation = (successor, after) := Option.some.inj step
      rw [show after = (player.steerLoop generation).2 by rw [moved], Player.steerLoop] at launches
      split at launches
      · next live =>
          split at launches
          · exact absurd rfl launches
          · next free => exact ⟨live, Bool.eq_false_iff.mpr free⟩
      · exact absurd rfl launches
  | advancing pilot => exact absurd (within.launches rfl) launches
  | awaitingInput own auto deadline => exact absurd (within.launches rfl) launches
  | running execution caller =>
      cases caller with
      | pilot pilot epoch => exact absurd (within.launches rfl) launches
      | _ => cases helm
  | _ => cases helm

namespace World

def helm? (world : World) (move : Move) : Option Pilot := (world.mover? move).bind Activity.pilot?

theorem generation_after (world : World) (numbered : world.Numbered) (moves : List Move) :
    world.player.playback.generation ≤ (world.after moves).player.playback.generation :=
  world.after_relates (fun before after => before.playback.generation ≤ after.playback.generation) Nat.le_trans
    (fun _ _ _ _ => Nat.le_refl _) (fun step => (Activity.step_spares _ _ _ step).rises.grows) numbered moves

theorem loop_starts (world : World) (numbered : world.Numbered) (move : Move) (generation : Nat)
    (helm : world.helm? move = some (.loop generation))
    (starts : (world.move move).player.launches ≠ world.player.launches) :
    world.player.playback.isLive generation = true ∧ world.player.playback.mode.waiting = false := by
  cases (move_comes world numbered move).1 with
  | stays clock requests player =>
      rw [player] at starts
      exact absurd rfl starts
  | moves activity successor others player stage mover _ _ step told _ =>
      rw [told] at starts
      rw [helm?, mover] at helm
      exact loop_launches step generation helm starts

end World

end Storyline
