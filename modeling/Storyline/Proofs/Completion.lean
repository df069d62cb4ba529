import Storyline.Proofs.Hall

set_option autoImplicit false

/-!
What the calls of a rendezvous come to over a schedule: their callbacks run in order, none returns before its own has run, the
layers are raised as their sources say, and a leader that is left to itself ends what it leads.
-/

namespace Storyline.Completion

section Moves

variable {callers : Nat → Caller} {hall after : Hall}

/-! ### The sources of the layers -/

-- Every source but the newest one was raised, and that one is while a rendezvous is in progress.
def Renewed (hall : Hall) : Prop :=
  hall.sources = hall.rendezvous.inProgress :: List.replicate hall.rendezvous.generation true

theorem renewed_moves (led : Led hall) (moves : Moves callers hall after) (renewed : Renewed hall) : Renewed after := by
  unfold Renewed at renewed
  cases moves with
  | leads => simp only [Renewed, Hall.put, renewed, List.tail_cons]
  | ends caller popping none =>
      obtain ⟨busy, _⟩ := led_by led caller (by rw [popping]; rfl)
      simp only [Renewed, Hall.put, renewed, busy, List.replicate_succ]
  | _ => exact renewed

theorem raised_of_renewed (renewed : Renewed hall) (signal : Nat) :
    hall.rendezvous.raised signal = hall.sources.reverse.getD signal false := by
  rw [renewed, List.reverse_cons, List.reverse_replicate, Rendezvous.raised]
  rcases Nat.lt_trichotomy signal hall.rendezvous.generation with less | rfl | more
  · simp [List.getElem?_append, less]
  · simp
  · have beyond : signal - hall.rendezvous.generation ≠ 0 := by omega
    simp [List.getElem?_append, Nat.not_lt_of_gt more, Nat.ne_of_gt more, beyond]

/-! ### Over time -/

theorem logs_moves (moves : Moves callers hall after) :
    hall.queued <+: after.queued ∧ hall.ran <+: after.ran := by
  cases moves with
  | joins => exact ⟨List.prefix_append _ _, List.prefix_rfl⟩
  | leads => exact ⟨List.prefix_append _ _, List.prefix_rfl⟩
  | runs => exact ⟨List.prefix_rfl, List.prefix_append _ _⟩
  | _ => exact ⟨List.prefix_rfl, List.prefix_rfl⟩

theorem generation_moves (led : Led hall) (moves : Moves callers hall after) :
    (after.rendezvous.generation = hall.rendezvous.generation ∧
      (hall.rendezvous.inProgress = true → after.rendezvous.inProgress = true)) ∨
    (after.rendezvous.generation = hall.rendezvous.generation + 1 ∧ hall.rendezvous.inProgress = true) := by
  cases moves with
  | leads => exact .inl ⟨rfl, fun _ => rfl⟩
  | ends caller popping => exact .inr ⟨rfl, (led_by led caller (by rw [popping]; rfl)).1⟩
  | _ => exact .inl ⟨rfl, id⟩

-- Who pops has seen the others finished or parked, and the rendezvous cannot end behind its back.
theorem popping_moves (led : Led hall) (moves : Moves callers hall after)
    (member : Nat) (pops : (after.stage member).isPopping = true) :
    after.rendezvous.generation = hall.rendezvous.generation ∧
      ((hall.stage member).isPopping = true ∨
        hall.rendezvous.inProgress = true ∧ hall.executing.drained none = true) := by
  cases moves with
  | around executing => exact ⟨rfl, .inl pops⟩
  | joins caller | leads caller | parks caller | follows caller | returns caller =>
      rcases Hall.put_cases pops with ⟨_, other⟩ | ⟨_, before⟩
      · cases other
      · exact ⟨rfl, .inl before⟩
  | drains caller waiting drained =>
      rcases Hall.put_cases pops with ⟨same, _⟩ | ⟨_, before⟩
      · exact ⟨rfl, .inr ⟨(led_by led caller (by rw [waiting]; rfl)).1, drained⟩⟩
      · exact ⟨rfl, .inl before⟩
  | pops caller callback callbacks popping =>
      rcases Hall.put_cases pops with ⟨same, _⟩ | ⟨_, before⟩
      · exact ⟨rfl, .inl (by rw [same, popping]; rfl)⟩
      · exact ⟨rfl, .inl before⟩
  | runs caller callback running =>
      rcases Hall.put_cases pops with ⟨same, _⟩ | ⟨_, before⟩
      · exact ⟨rfl, .inl (by rw [same, running]; rfl)⟩
      · exact ⟨rfl, .inl before⟩
  | ends caller popping none =>
      rcases Hall.put_cases pops with ⟨_, other⟩ | ⟨different, before⟩
      · cases other
      · have leads := Stage.leads_of_popping (hall.stage member) before
        exact absurd ((led_by led caller (by rw [popping]; rfl)).2.1 member leads) different

theorem ran_moves (moves : Moves callers hall after)
    (runs : after.ran ≠ hall.ran) : ∃ caller, (hall.stage caller).isPopping = true := by
  cases moves with
  | runs caller callback running => exact ⟨caller, by rw [running]; rfl⟩
  | _ => exact absurd rfl runs

end Moves

theorem raised_iff (rendezvous : Rendezvous Nat) (signal : Nat) :
    rendezvous.raised signal = true ↔
      signal < rendezvous.generation ∨ signal = rendezvous.generation ∧ rendezvous.inProgress = true := by
  simp [Rendezvous.raised]

section Schedule

variable (callers : Nat → Caller) (schedule : Nat → Move)

theorem during_moves (time : Nat) :
    Moves callers (Hall.during callers schedule time) (Hall.during callers schedule (time + 1)) :=
  step_moves callers _ (schedule time)

theorem during_renewed (time : Nat) : Renewed (Hall.during callers schedule time) := by
  induction time with
  | zero => rfl
  | succ time ih => exact renewed_moves (during_sound callers schedule time).led (during_moves callers schedule time) ih

theorem during_logs (early late : Nat) (upto : early ≤ late) :
    (Hall.during callers schedule early).queued <+: (Hall.during callers schedule late).queued ∧
      (Hall.during callers schedule early).ran <+: (Hall.during callers schedule late).ran := by
  induction upto with
  | refl => exact ⟨List.prefix_rfl, List.prefix_rfl⟩
  | @step late _ ih =>
      have grows := logs_moves (during_moves callers schedule late)
      exact ⟨ih.1.trans grows.1, ih.2.trans grows.2⟩

theorem during_drained (time member : Nat)
    (pops : ((Hall.during callers schedule time).stage member).isPopping = true) :
    ∃ past ≤ time,
      (Hall.during callers schedule past).rendezvous.generation = (Hall.during callers schedule time).rendezvous.generation ∧
      (Hall.during callers schedule past).rendezvous.inProgress = true ∧
      (Hall.during callers schedule past).executing.drained none = true := by
  induction time with
  | zero => cases pops
  | succ time ih =>
      obtain ⟨same, before | ⟨busy, drained⟩⟩ :=
        popping_moves (during_sound callers schedule time).led (during_moves callers schedule time) member pops
      · obtain ⟨past, upto, generation, seen⟩ := ih before
        exact ⟨past, Nat.le_succ_of_le upto, generation.trans same.symm, seen⟩
      · exact ⟨time, Nat.le_succ time, same.symm, busy, drained⟩

theorem during_raised (early late : Nat) (upto : early ≤ late) :
    (Hall.during callers schedule early).rendezvous.signal ≤ (Hall.during callers schedule late).rendezvous.generation ∧
    ((Hall.during callers schedule late).rendezvous.raised (Hall.during callers schedule early).rendezvous.signal = true ↔
      ∃ time, early ≤ time ∧ time ≤ late ∧ (Hall.during callers schedule time).rendezvous.inProgress = true) := by
  simp only [raised_iff, Rendezvous.signal]
  induction upto with
  | refl =>
      refine ⟨Nat.le_refl _, fun raised => ?_, fun ⟨time, low, high, busy⟩ => ?_⟩
      · rcases raised with less | ⟨_, busy⟩
        · exact absurd less (Nat.lt_irrefl _)
        · exact ⟨early, Nat.le_refl _, Nat.le_refl _, busy⟩
      · obtain rfl := Nat.le_antisymm low high
        exact .inr ⟨rfl, busy⟩
  | @step late since ih =>
      obtain ⟨monotone, raised⟩ := ih
      have later (seen : ∃ time, early ≤ time ∧ time ≤ late ∧
            (Hall.during callers schedule time).rendezvous.inProgress = true) :
          ∃ time, early ≤ time ∧ time ≤ late + 1 ∧ (Hall.during callers schedule time).rendezvous.inProgress = true := by
        obtain ⟨time, low, high, busy⟩ := seen
        exact ⟨time, low, Nat.le_succ_of_le high, busy⟩
      rcases generation_moves (during_sound callers schedule late).led (during_moves callers schedule late) with
        ⟨same, stays⟩ | ⟨next, busy⟩
      · rw [same]
        refine ⟨monotone, fun up => ?_, fun ⟨time, low, high, busy⟩ => ?_⟩
        · rcases up with less | ⟨_, busy⟩
          · exact later (raised.mp (.inl less))
          · exact ⟨late + 1, Nat.le_succ_of_le since, Nat.le_refl _, busy⟩
        · rcases Nat.lt_or_eq_of_le high with before | now
          · rcases raised.mpr ⟨time, low, Nat.le_of_lt_succ before, busy⟩ with less | ⟨equal, busy⟩
            · exact .inl less
            · exact .inr ⟨equal, stays busy⟩
          · rw [now] at busy
            rcases Nat.lt_or_eq_of_le monotone with less | equal
            · exact .inl less
            · exact .inr ⟨equal, busy⟩
      · rw [next]
        have less := Nat.lt_succ_of_le monotone
        exact ⟨Nat.le_of_lt less, fun _ => later ⟨late, since, Nat.le_refl _, busy⟩, fun _ => .inl less⟩

end Schedule

/-! ### A leader left to itself -/

-- One call goes on alone for a number of moves.
def Hall.alone (callers : Nat → Caller) (caller : Nat) : Nat → Hall → Hall
  | 0, hall => hall
  | count + 1, hall => alone callers caller count (hall.proceed callers caller)

section Leader

variable (callers : Nat → Caller) (hall : Hall) (caller : Nat)

theorem proceed_popping (callback : Nat) (callbacks : List Nat) (popping : hall.stage caller = .popping)
    (first : hall.rendezvous.callbacks = callback :: callbacks) :
    hall.proceed callers caller =
      { hall with rendezvous := { hall.rendezvous with callbacks := callbacks } }.put caller (.running callback) := by
  simp only [Hall.proceed, popping, Rendezvous.pop, first]

theorem proceed_running (callback : Nat) (running : hall.stage caller = .running callback) :
    hall.proceed callers caller = { hall with ran := hall.ran ++ [callback] }.put caller .popping := by
  simp only [Hall.proceed, running]

theorem popping_returns (popping : hall.stage caller = .popping) :
    ∃ count, (hall.alone callers caller count).stage caller = .returned true ∧
      (hall.alone callers caller count).executing = (callers caller).parked.elim hall.executing hall.executing.unpark ∧
      (hall.alone callers caller count).rendezvous = hall.rendezvous.conclude.2 ∧
      (hall.alone callers caller count).ran = hall.ran ++ hall.rendezvous.callbacks := by
  generalize left : hall.rendezvous.callbacks = callbacks
  induction callbacks generalizing hall with
  | nil =>
      refine ⟨2, ?_⟩
      simp [Hall.alone, Hall.proceed, popping, Rendezvous.pop, Rendezvous.conclude, left, Hall.put]
  | cons callback callbacks ih =>
      have popped := proceed_popping callers hall caller callback callbacks popping left
      have ran := proceed_running callers (hall.proceed callers caller) caller callback (by rw [popped, Hall.put_same])
      obtain ⟨count, stage, executing, rendezvous, order⟩ :=
        ih ((hall.proceed callers caller).proceed callers caller) (by rw [ran, Hall.put_same]) (by rw [ran, popped]; rfl)
      refine ⟨count + 2, stage, ?_, ?_, ?_⟩
      · rw [Hall.alone, Hall.alone, executing, ran, popped]
        rfl
      · rw [Hall.alone, Hall.alone, rendezvous, ran, popped]
        rfl
      · rw [Hall.alone, Hall.alone, order, ran, popped]
        simp [Hall.put]

-- By its own moves the call returns, with everything queued run and no rendezvous in progress.
def Hall.Concludes (callers : Nat → Caller) (hall : Hall) (caller : Nat) : Prop :=
  ∃ count, (hall.alone callers caller count).stage caller = .returned true ∧
    (hall.alone callers caller count).ran = hall.queued ∧ (hall.alone callers caller count).rendezvous.inProgress = false

theorem concludes_of_proceed (queued : (hall.proceed callers caller).queued = hall.queued)
    (ends : (hall.proceed callers caller).Concludes callers caller) : hall.Concludes callers caller := by
  obtain ⟨count, stage, ran, progress⟩ := ends
  exact ⟨count + 1, stage, ran.trans queued, progress⟩

theorem popping_concludes (led : Led hall) (popping : hall.stage caller = .popping) : hall.Concludes callers caller := by
  obtain ⟨count, stage, _, rendezvous, ran⟩ := popping_returns callers hall caller popping
  obtain ⟨_, _, order⟩ := led_by led caller (by rw [popping]; rfl)
  rw [popping] at order
  exact ⟨count, stage, ran.trans order.symm, by rw [rendezvous]; rfl⟩

theorem waiting_concludes (led : Led hall) (waiting : hall.stage caller = .waiting .leader)
    (drained : hall.executing.drained none = true) : hall.Concludes callers caller := by
  have woken : hall.proceed callers caller = hall.put caller .popping := by
    simp only [Hall.proceed, waiting, if_pos drained]
  have next := led_moves led (proceed_moves callers hall caller)
  refine concludes_of_proceed callers hall caller (by rw [woken]; rfl) (popping_concludes callers _ caller next ?_)
  rw [woken, Hall.put_same]

theorem leader_concludes (led : Led hall) (leads : (hall.stage caller).leads = true)
    (drained : hall.executing.drained none = true) : hall.Concludes callers caller := by
  have next := led_moves led (proceed_moves callers hall caller)
  cases stage : hall.stage caller with
  | popping => exact popping_concludes callers hall caller led stage
  | running callback =>
      have ran := proceed_running callers hall caller callback stage
      refine concludes_of_proceed callers hall caller (by rw [ran]; rfl) (popping_concludes callers _ caller next ?_)
      rw [ran, Hall.put_same]
  | waiting role =>
      cases role with
      | leader => exact waiting_concludes callers hall caller led stage drained
      | follower generation =>
          rw [stage] at leads
          cases leads
  | parking role =>
      cases role with
      | leader =>
          have parked : hall.proceed callers caller = { hall with
              executing := (callers caller).parked.elim hall.executing hall.executing.park }.put caller (.waiting .leader) := by
            simp only [Hall.proceed, stage]
          refine concludes_of_proceed callers hall caller (by rw [parked]; rfl) (waiting_concludes callers _ caller next ?_ ?_)
          · rw [parked, Hall.put_same]
          · rw [parked]
            cases (callers caller).parked with
            | none => exact drained
            | some id => exact hall.executing.drained_park id drained
      | follower generation =>
          rw [stage] at leads
          cases leads
  | _ =>
      rw [stage] at leads
      cases leads

end Leader

theorem completion_in_order (callers : Nat → Caller) (schedule : Nat → Move) (time : Nat) :
    let hall := Hall.during callers schedule
    -- callbacks run in the order in which they were queued, each at most once
    ((hall time).ran <+: (hall time).queued ∧ (hall time).queued.Nodup ∧
      ∀ past ≤ time, (hall past).queued <+: (hall time).queued ∧ (hall past).ran <+: (hall time).ran) ∧
    -- a call returns after its own callback has run
    (∀ caller led, (hall time).stage caller = .returned led → (callers caller).queues = true → caller ∈ (hall time).ran) ∧
    -- a callback runs after everything was finished or parked, in the same rendezvous
    ((hall (time + 1)).ran ≠ (hall time).ran →
      ∃ past ≤ time, (hall past).rendezvous.generation = (hall time).rendezvous.generation ∧
        (hall past).rendezvous.inProgress = true ∧
        ∀ entry ∈ (hall past).executing.entries, entry.id ∈ (hall past).executing.parked) ∧
    -- one call leads while a rendezvous is in progress, and none otherwise
    ((∀ a b, ((hall time).stage a).leads = true → ((hall time).stage b).leads = true → a = b) ∧
      ((hall time).rendezvous.inProgress = true ↔ ∃ caller, ((hall time).stage caller).leads = true)) ∧
    -- a layer is raised once a rendezvous has been in progress since it was handed out
    (∀ past ≤ time,
      ((hall time).rendezvous.raised (hall past).rendezvous.signal = true ↔
        ∃ between, past ≤ between ∧ between ≤ time ∧ (hall between).rendezvous.inProgress = true)) ∧
    -- and that is what its source says
    (∀ signal, (hall time).rendezvous.raised signal = (hall time).sources.reverse.getD signal false) ∧
    -- once everything is finished or parked, the leader by itself runs all that is queued and ends the rendezvous
    ∀ caller, ((hall time).stage caller).leads = true →
      (∀ entry ∈ (hall time).executing.entries, entry.id ∈ (hall time).executing.parked) → (hall time).Concludes callers caller := by
  intro hall
  have sound := during_sound callers schedule time
  refine ⟨⟨ran_in_order sound.led, sound.once, fun past => during_logs callers schedule past time⟩,
    fun caller led returned => ?_, fun runs => ?_, ⟨fun a b first second => ?_, in_progress_iff sound.led⟩,
    fun past upto => (during_raised callers schedule past time upto).2,
    raised_of_renewed (during_renewed callers schedule time), fun caller leads parked => ?_⟩
  · exact (sound.attended caller).settled (by rw [returned]; rfl)
  · obtain ⟨caller, pops⟩ := ran_moves (during_moves callers schedule time) runs
    obtain ⟨past, upto, generation, busy, drained⟩ := during_drained callers schedule time caller pops
    exact ⟨past, upto, generation, busy, (Executing.drained_none_iff _).mp drained⟩
  · exact ((led_by sound.led a first).2.1 b second).symm
  · exact leader_concludes callers (hall time) caller sound.led leads ((Executing.drained_none_iff _).mpr parked)

-- The second call queues its callback while the first one, which leads, holds its own: the leader runs both.
def joining : List Move := [.register {} .main, .proceed 0, .proceed 0, .proceed 0, .unregister 0, .proceed 0, .proceed 0,
  .proceed 1, .proceed 0, .proceed 1, .proceed 1, .proceed 0, .proceed 0, .proceed 0, .proceed 1]

theorem leader_runs_joined_callback :
    let callers : Nat → Caller := fun _ => ⟨true, none⟩
    let schedule (time : Nat) : Move := joining.getD time (.proceed 1)
    let hall := Hall.during callers schedule
    (hall 4).ran = [] ∧ (hall 11).ran = [0] ∧ (hall 11).queued = [0, 1] ∧ (hall 11).sources = [true] ∧
      (hall 11).stage 1 = .waiting (.follower 0) ∧ (hall 11).Concludes callers 0 ∧
      (hall 16).stage 1 = .returned false ∧ (hall 16).sources = [false, true] ∧ 1 ∈ (hall 16).ran := by
  intro callers schedule hall
  obtain ⟨_, _, _, _, _, _, ends⟩ := completion_in_order callers schedule 11
  obtain ⟨_, ran, _⟩ := completion_in_order callers schedule 16
  exact ⟨by decide, by decide, by decide, by decide, by decide, ends 0 (by decide) (by decide), by decide, by decide,
    ran 1 false (by decide) (by decide)⟩

end Storyline.Completion
