import Storyline.Proofs.Passage

set_option autoImplicit false

/-!
A trip that is asked of the stopped player takes the caret along the same course as a loop that plays.
-/

namespace Storyline

namespace World

/-! ### A trip -/

-- The trip went on from here.
def Short (start : Ground) (script : String) (target visits : Nat) : Prop :=
  ∃ there, start.reach visits = some there ∧ there.caret.index < target ∧ there.script? = some script

structure Bound (start : Ground) (script : String) (target : Nat) (trip : Trip) : Prop where
  name : trip.script = script
  goal : trip.target = target
  stopped : trip.wasPlaying = false
  steps : trip.steps ≤ Player.tripLimit
  short : ∀ visits < trip.steps, Short start script target visits

-- Where a trip is, from the request to its arrival.
inductive Leg (start : Ground) (script : String) (target : Nat) (player : Player) : Activity → Prop where
  | asked (request : Request) (here : player.ground = start)
      (aims : ∀ other : Player, other.ground = start → other.ask request = other.travel script target) :
      Leg start script target player (.asked request)
  | completes (role : Role) (trip : Trip) (here : player.ground = start) (bound : Bound start script target trip)
      (first : trip.steps = 0) : Leg start script target player (.completing role (.travel trip))
  | sails (activity : Activity) (trip : Trip) (bound : Bound start script target trip)
      (current : player.playback.generation = trip.generation) (aboard : activity.Aboard (.trip trip) player.abandoned)
      (destiny : activity.destiny player = start.reach trip.steps) : Leg start script target player activity
  | arrives (visits : Nat) (few : visits ≤ Player.tripLimit) (there : start.reach visits = some player.ground)
      (far : target ≤ player.ground.caret.index) (within : player.ground.script? = some script)
      (short : ∀ earlier < visits, Short start script target earlier) :
      Leg start script target player (.finished (.flag true))

-- Why a trip does not arrive: its way ends, leaves the script, or is too long.
def Falls (start : Ground) (script : String) (target : Nat) (reply : Reply) : Prop :=
  reply ≠ .flag true ∧ ∃ visits ≤ Player.tripLimit, (∀ earlier < visits, Short start script target earlier) ∧
    ∀ there, start.reach visits = some there →
      there.script? ≠ some script ∨ visits = Player.tripLimit ∧ there.caret.index < target

theorem Leg.beside {start : Ground} {script : String} {target : Nat} {player other : Player} {activity : Activity}
    (leg : Leg start script target player activity) (stills : Stills player other) : Leg start script target other activity := by
  have ground := stills.ground
  have abandoned : other.abandoned = player.abandoned := congrArg Frame.abandoned stills.frame
  have generation : other.playback.generation = player.playback.generation := congrArg Frame.generation stills.frame
  cases leg with
  | asked request here aims => exact .asked request (ground.trans here) aims
  | completes role trip here bound first => exact .completes role trip (ground.trans here) bound first
  | sails _ trip bound current aboard destiny =>
      exact .sails activity trip bound (generation.trans current) (abandoned ▸ aboard)
        ((activity.destiny_ground ground).trans destiny)
  | arrives visits few there far within short => exact .arrives visits few (ground ▸ there) (ground ▸ far) (ground ▸ within) short

-- A step of a trip that goes on, and what it leaves as it is.
structure Travels (start : Ground) (script : String) (target : Nat) (player : Player) (successor : Activity) (after : Player) :
    Prop where
  leg : Leg start script target after successor
  presenter : after.presenter = player.presenter
  spawns : after.spawns = player.spawns
  playing : after.playback.playing = player.playback.playing

section Trip

variable {start : Ground} {script : String} {target : Nat} {player : Player}

theorem travels_reframe {successor : Activity} {after : Player} (leg : Leg start script target after successor)
    (frame : after.frame = player.reframe after.ground) : Travels start script target player successor after :=
  ⟨leg, congrArg Frame.presenter frame, congrArg Frame.spawns frame, congrArg Frame.playing frame⟩

theorem sails_travel (trip : Trip) (bound : Bound start script target trip)
    (current : player.playback.generation = trip.generation) (expected : Option Ground) (moved : Activity × Player)
    (sails : Sails (.trip trip) player expected moved) (leads : expected = start.reach trip.steps) :
    (∃ reply, moved.1 = .finished reply ∧ Falls start script target reply) ∨
      Travels start script target player moved.1 moved.2 := by
  cases sails with
  | on aboard frame destiny =>
      have abandoned : moved.2.abandoned = player.abandoned := congrArg Frame.abandoned frame
      have generation := (congrArg Frame.generation frame).trans current
      exact .inr (travels_reframe (.sails moved.1 trip bound generation (abandoned ▸ aboard) (destiny.trans leads)) frame)
  | over_ done nowhere other =>
      obtain ⟨activity, after⟩ := moved
      cases activity with
      | finished reply =>
          refine .inl ⟨reply, rfl, fun same => other (same ▸ rfl), trip.steps, bound.steps, bound.short, fun there reached => ?_⟩
          rw [← leads, nowhere] at reached
          cases reached
      | _ => cases done

theorem steer_travel (tame : start.Tame script) (trip : Trip) (bound : Bound start script target trip)
    (current : player.playback.generation = trip.generation) (here : start.reach trip.steps = some player.ground) :
    (∃ reply, (player.steerTrip trip).1 = .finished reply ∧ Falls start script target reply) ∨
      Travels start script target player (player.steerTrip trip).1 (player.steerTrip trip).2 := by
  have place : player.playback.script? = player.ground.script? := rfl
  have index : player.playback.index = player.ground.caret.index := rfl
  have only (there : Ground) (reached : start.reach trip.steps = some there) : there = player.ground :=
    Option.some.inj (reached.symm.trans here)
  obtain rfl := bound.name
  obtain rfl := bound.goal
  unfold Player.steerTrip
  rw [place, index]
  split
  · next astray =>
      obtain ⟨ends, _⟩ := (player.warn "Fast-forward left the script; stopping short").disembark_stopped trip bound.stopped false
      refine .inl ⟨.flag false, ends, by simp, trip.steps, bound.steps, bound.short, fun there reached => .inl ?_⟩
      rw [only there reached]
      exact astray
  · next within =>
      have within := not_not.mp within
      split
      · next far =>
          obtain ⟨ends, frame⟩ := player.disembark_stopped trip bound.stopped true
          obtain ⟨ground, framed⟩ := Player.reframe_of_frame frame
          refine .inr (travels_reframe ?_ framed)
          rw [ends]
          exact .arrives trip.steps bound.steps (ground ▸ here) (ground ▸ far) (ground ▸ within) bound.short
      · next near =>
          have near := Nat.lt_of_not_le near
          split
          · next many =>
              obtain ⟨ends, _⟩ := (player.warn "Fast-forward step limit reached").disembark_stopped trip bound.stopped false
              refine .inl ⟨.flag false, ends, by simp, trip.steps, bound.steps, bound.short, fun there reached => .inr ?_⟩
              rw [only there reached]
              exact ⟨Nat.le_antisymm bound.steps many, near⟩
          · next few =>
              have forced := player.with_mode_frame player.playback.mode.forceSkip
              obtain ⟨ground, framed⟩ := Player.reframe_of_frame forced
              have generation := (congrArg Frame.generation forced).trans current
              have farther : Bound start trip.script trip.target { trip with steps := trip.steps + 1 } := by
                refine ⟨bound.name, bound.goal, bound.stopped, Nat.lt_of_not_le few, fun visits less => ?_⟩
                rcases Nat.lt_succ_iff_lt_or_eq.mp less with before | rfl
                · exact bound.short visits before
                · exact ⟨player.ground, here, near, within⟩
              have tamed := Ground.tame_here _ (start.reach_tame tame trip.steps _ (ground.symm ▸ here)) (ground.symm ▸ within)
              have visits := ((player.withMode player.playback.mode.forceSkip).visit_sails
                (.trip { trip with steps := trip.steps + 1 }) generation tamed).from framed
              refine sails_travel _ farther current _ _ visits ?_
              rw [ground, Ground.reach, here]
              rfl

theorem leg_step (tame : start.Tame script) (mild : player.presenter.Mild) (stopped : player.playback.playing = false)
    (activity : Activity) (leg : Leg start script target player activity) (successor : Activity) (after : Player)
    (step : activity.step? player = some (successor, after)) :
    (∃ reply, successor = .finished reply ∧ Falls start script target reply) ∨
      Travels start script target player successor after := by
  cases leg with
  | asked request here aims =>
      have moved : player.travel script target = (successor, after) := (aims player here).symm.trans (Option.some.inj step)
      have halted : player.stop.frame = player.frame := by
        rw [Player.stop, player.stop_for_frame, ← stopped]
        rfl
      have entered := ((player.stop.enter_rendezvous_edits none none).frame rfl).trans halted
      obtain ⟨rfl, rfl⟩ := Prod.mk.inj moved
      obtain ⟨ground, framed⟩ := Player.reframe_of_frame entered
      refine .inr (travels_reframe (.completes _ _ (ground.trans here) ?_ rfl) framed)
      exact ⟨rfl, rfl, stopped, Nat.zero_le _, fun visits less => absurd less (Nat.not_lt_zero _)⟩
  | completes role trip here bound first =>
      obtain ⟨left, leaves, moved⟩ := Option.map_eq_some_iff.mp step
      have frame := (player.leave_rendezvous_edits role none left leaves).frame rfl
      have released : (if left.playback.mode.waiting then left.setWaiting false else left).frame = player.frame := by
        split
        · exact ((left.set_waiting_edits false).frame rfl).trans frame
        · exact frame
      have embarks : (if left.playback.mode.waiting then left.setWaiting false else left).embark trip =
          (successor, after) := moved
      generalize (if left.playback.mode.waiting then left.setWaiting false else left) = free at released embarks
      obtain ⟨rfl, rfl⟩ := Prod.mk.inj embarks
      have ground : free.ground = player.ground := congrArg Frame.ground released
      refine .inr ⟨.sails _ { trip with generation := free.playback.generation + 1 } ?_ rfl rfl ?_,
        congrArg Frame.presenter released, congrArg Frame.spawns released, congrArg Frame.playing released⟩
      · exact ⟨bound.name, bound.goal, bound.stopped, bound.steps, bound.short⟩
      · show some free.ground = start.reach trip.steps
        rw [first, ground, here]
        rfl
  | sails _ trip bound current aboard destiny =>
      cases activity with
      | steering pilot =>
          obtain rfl : pilot = .trip trip := aboard
          have moved : player.steerTrip trip = (successor, after) := Option.some.inj step
          have travels := steer_travel tame trip bound current destiny.symm
          rw [moved] at travels
          exact travels
      | advancing _ | running _ _ =>
          exact sails_travel trip bound current _ _ (player.under_way_sails (.trip trip) current _ mild aboard rfl _ step) destiny
      | awaitingInput generation auto deadline => cases aboard
      | _ => exact aboard.elim
  | arrives => cases step

end Trip

-- No request is made and none is given up.
def Move.isFree : Move → Bool
  | .thread _ | .front | .pass _ | .arrange .. => true
  | _ => false

structure Traveling (start : Ground) (script : String) (target newest : Nat) (world : World) : Prop where
  beside : world.Beside newest .front
  stopped : world.player.playback.playing = false
  leg : ∃ activity, world.front = some activity ∧ Leg start script target world.player activity

def Fallen (start : Ground) (script : String) (target : Nat) (world : World) : Prop :=
  ∃ reply, world.front = some (.finished reply) ∧ Falls start script target reply

section Traveling

variable {start : Ground} {script : String} {target newest : Nat} {world : World}

theorem front_stays (world : World) (move : Move) (free : move.isFree = true) (different : move ≠ .front) :
    (world.move move).front = world.front := by
  cases move with
  | thread id =>
      rw [World.move]
      cases stepped : world.step? id with
      | none => rfl
      | some next =>
          obtain ⟨thread, found, stepped⟩ := Option.bind_eq_some_iff.mp stepped
          obtain ⟨⟨successor, player⟩, _, rfl⟩ := Option.map_eq_some_iff.mp stepped
          cases successor <;> exact (deliver_spec _ _).2.1
  | front => exact absurd rfl different
  | pass _ | arrange _ _ => rfl
  | _ => cases free

theorem fallen_move (fallen : world.Fallen start script target) (move : Move) (free : move.isFree = true) :
    (world.move move).Fallen start script target := by
  obtain ⟨reply, front, falls⟩ := fallen
  by_cases own : move = .front
  · subst own
    rw [move_idle world .front _ front (fun _ same => Option.some.inj same ▸ rfl) (.inl rfl)]
    exact ⟨reply, front, falls⟩
  · exact ⟨reply, (front_stays world move free own).trans front, falls⟩

theorem traveling_move (tame : start.Tame script) (traveling : world.Traveling start script target newest) (move : Move)
    (free : move.isFree = true) :
    (world.move move).Fallen start script target ∨ (world.move move).Traveling start script target newest := by
  obtain ⟨activity, front, leg⟩ := traveling.leg
  have beside := traveling.beside
  have dormant (generation : Nat) (_ : generation ≤ newest) : world.player.playback.isLive generation = false := by
    simp [Playback.isLive, traveling.stopped]
  have aside (different : move ≠ .front) (after : (world.move move).Beside newest .front)
      (stills : Stills world.player (world.move move).player) : (world.move move).Traveling start script target newest := by
    refine ⟨after, ?_, activity, (front_stays world move free different).trans front, leg.beside stills⟩
    refine Bool.eq_false_iff.mpr fun on => ?_
    have was := stills.off on
    rw [traveling.stopped] at was
    cases was
  have numbered := (move_comes world beside.numbered move).2
  cases move with
  | thread id =>
      obtain ⟨after, stills, _⟩ := beside_bystander beside (.thread id) (by simp) dormant (.inr ⟨id, rfl⟩)
      exact .inr (aside (by simp) after stills)
  | front =>
      cases step : activity.step? world.player with
      | none =>
          rw [move_idle world .front _ front (fun _ same => Option.some.inj same ▸ step) (.inl rfl)]
          exact .inr traveling
      | some moved =>
          obtain ⟨successor, player⟩ := moved
          have now : (world.move .front).front = some successor := by
            rw [front_eq world front step]
            exact (deliver_spec _ none).2.1
          rcases leg_step tame beside.mild traveling.stopped activity leg successor player step with ⟨reply, rfl, falls⟩ | travels
          · exact .inl ⟨reply, now, falls⟩
          · have quiet : player.spawns = [] := travels.spawns.trans (beside_quiet beside)
            obtain ⟨after, frame, _⟩ := beside_step beside .front activity front successor player step quiet travels.presenter
              (fun different => absurd rfl different)
            have playing := (congrArg Frame.playing frame).trans (travels.playing.trans traveling.stopped)
            exact .inr ⟨after, playing, successor, now, travels.leg.beside (.of_frame frame)⟩
  | pass time =>
      exact .inr (aside (by simp) ⟨numbered, beside.mild, fun other => by cases other <;> exact beside.others _⟩ (.of_frame rfl))
  | arrange queue postponed =>
      exact .inr (aside (by simp) ⟨numbered, beside.mild, fun other => by cases other <;> exact beside.others _⟩ (.of_frame rfl))
  | _ => cases free

theorem traveling_after (tame : start.Tame script) (traveling : world.Traveling start script target newest) (moves : List Move)
    (free : moves.all Move.isFree = true) :
    (world.after moves).Fallen start script target ∨ (world.after moves).Traveling start script target newest := by
  have fallen_after (world : World) (fallen : world.Fallen start script target) (moves : List Move)
      (free : moves.all Move.isFree = true) : (world.after moves).Fallen start script target := by
    induction moves generalizing world with
    | nil => exact fallen
    | cons move moves ih =>
        obtain ⟨first, rest⟩ := Bool.and_eq_true_iff.mp (List.all_cons ▸ free)
        exact ih _ (fallen_move fallen move first) rest
  induction moves generalizing world with
  | nil => exact .inr traveling
  | cons move moves ih =>
      obtain ⟨first, rest⟩ := Bool.and_eq_true_iff.mp (List.all_cons ▸ free)
      rcases traveling_move tame traveling move first with fallen | goes
      · exact .inl (fallen_after _ fallen moves rest)
      · exact ih goes rest

end Traveling

end World

end Storyline
