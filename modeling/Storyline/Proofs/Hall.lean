import Mathlib.Data.List.Nodup
import Storyline.Executing

set_option autoImplicit false

/-!
Calls of the completion rendezvous, interleaved in any way. A call takes the shared state from one lock to the next: it
queues its callback and leads or joins, parks, waits, and the leader pops one callback after another before it ends the
rendezvous. Between any two of these moves other calls may go on, and commands may be registered, unregistered, parked and
unparked.
-/

namespace Storyline.Completion

-- A callback is told apart by the call that queues it, so it is that call's number.
structure Caller where
  queues : Bool
  parked : Option Nat

-- Where a call stands between two locks.
inductive Stage where
  | idle
  | parking (role : Role)
  | waiting (role : Role)
  | popping
  | running (callback : Nat)
  | unparking (led : Bool)
  | returned (led : Bool)
deriving DecidableEq

namespace Stage

-- From the start of the rendezvous, which its leader makes, to the end, which it makes too.
def leads : Stage → Bool
  | .parking .leader | .waiting .leader | .popping | .running _ => true
  | _ => false

-- The rendezvous that the call takes part in is over.
def isSettled : Stage → Nat → Bool
  | .parking (.follower joined), generation | .waiting (.follower joined), generation => decide (joined < generation)
  | .unparking _, _ | .returned _, _ => true
  | _, _ => false

-- The generation that a call has joined.
def joined? : Stage → Option Nat
  | .parking (.follower joined) | .waiting (.follower joined) => some joined
  | _ => none

-- A leader that has seen everything else finished or parked.
def isPopping : Stage → Bool
  | .popping | .running _ => true
  | _ => false

-- The callback that was popped and has not run yet.
def held : Stage → List Nat
  | .running callback => [callback]
  | _ => []

theorem leads_of_popping (stage : Stage) (pops : stage.isPopping = true) : stage.leads = true := by
  cases stage with
  | popping => rfl
  | running callback => rfl
  | _ => cases pops

end Stage

structure Hall where
  executing : Executing := {}
  rendezvous : Rendezvous Nat := {}
  stage : Nat → Stage := fun _ => .idle
  -- callbacks in the order in which they were queued, and in which they ran
  queued : List Nat := []
  ran : List Nat := []
  -- the sources of the layers that were handed out, the newest one first: whether each is raised
  sources : List Bool := [false]

inductive Move where
  | register (spot : Spot) (lane : Lane)
  | unregister (id : Nat)
  | park (id : Nat)
  | unpark (id : Nat)
  | proceed (caller : Nat)

namespace Hall

def put (hall : Hall) (caller : Nat) (stage : Stage) : Hall :=
  { hall with stage := fun other => if other = caller then stage else hall.stage other }

theorem put_same (hall : Hall) (caller : Nat) (stage : Stage) : (hall.put caller stage).stage caller = stage := if_pos rfl

theorem put_other (hall : Hall) (caller other : Nat) (stage : Stage) (different : other ≠ caller) :
    (hall.put caller stage).stage other = hall.stage other := if_neg different

theorem put_cases {hall : Hall} {caller member : Nat} {stage : Stage} {property : Stage → Bool}
    (holds : property ((hall.put caller stage).stage member) = true) :
    (member = caller ∧ property stage = true) ∨ (member ≠ caller ∧ property (hall.stage member) = true) := by
  by_cases same : member = caller
  · rw [same, put_same] at holds
    exact .inl ⟨same, holds⟩
  · rw [put_other _ _ _ _ same] at holds
    exact .inr ⟨same, holds⟩

def offer (callers : Nat → Caller) (caller : Nat) : Option Nat := if (callers caller).queues then some caller else none

-- One call goes on, up to its next lock; a call that has to wait stays where it is.
def proceed (callers : Nat → Caller) (hall : Hall) (caller : Nat) : Hall :=
  match hall.stage caller with
  | .idle =>
      let callback := offer callers caller
      let entered := hall.rendezvous.enter callback
      { hall with
        rendezvous := entered.2
        queued := hall.queued ++ callback.toList
        sources := if entered.1 = Role.leader then true :: hall.sources.tail else hall.sources }.put caller (.parking entered.1)
  | .parking role =>
      { hall with executing := (callers caller).parked.elim hall.executing hall.executing.park }.put caller (.waiting role)
  | .waiting .leader => if hall.executing.drained none then hall.put caller .popping else hall
  | .waiting (.follower generation) =>
      if hall.rendezvous.generation = generation then hall else hall.put caller (.unparking false)
  | .popping =>
      match hall.rendezvous.pop with
      | (some callback, rendezvous) => { hall with rendezvous := rendezvous }.put caller (.running callback)
      | (none, rendezvous) =>
          { hall with rendezvous := rendezvous, sources := false :: hall.sources }.put caller (.unparking true)
  | .running callback => { hall with ran := hall.ran ++ [callback] }.put caller .popping
  | .unparking led =>
      { hall with executing := (callers caller).parked.elim hall.executing hall.executing.unpark }.put caller (.returned led)
  | .returned _ => hall

def step (callers : Nat → Caller) (hall : Hall) : Move → Hall
  | .register spot lane => { hall with executing := (hall.executing.register spot lane).2 }
  | .unregister id => { hall with executing := hall.executing.unregister id }
  | .park id => { hall with executing := hall.executing.park id }
  | .unpark id => { hall with executing := hall.executing.unpark id }
  | .proceed caller => hall.proceed callers caller

-- The state after the first moves of a schedule.
def during (callers : Nat → Caller) (schedule : Nat → Move) : Nat → Hall
  | 0 => {}
  | time + 1 => (during callers schedule time).step callers (schedule time)

end Hall

/-! ### What a move can do -/

inductive Moves (callers : Nat → Caller) (hall : Hall) : Hall → Prop where
  -- commands come, go, park and unpark, or a call waits
  | around (executing : Executing) : Moves callers hall { hall with executing := executing }
  | joins (caller : Nat) (idle : hall.stage caller = .idle) (busy : hall.rendezvous.inProgress = true) :
      Moves callers hall
        ({ hall with
          rendezvous := { hall.rendezvous with
            callbacks := hall.rendezvous.callbacks ++ (Hall.offer callers caller).toList }
          queued := hall.queued ++ (Hall.offer callers caller).toList }.put caller
            (.parking (.follower hall.rendezvous.generation)))
  | leads (caller : Nat) (idle : hall.stage caller = .idle) (calm : hall.rendezvous.inProgress = false) :
      Moves callers hall
        ({ hall with
          rendezvous := { hall.rendezvous with
            inProgress := true
            callbacks := hall.rendezvous.callbacks ++ (Hall.offer callers caller).toList }
          queued := hall.queued ++ (Hall.offer callers caller).toList
          sources := true :: hall.sources.tail }.put caller (.parking .leader))
  | parks (caller : Nat) (role : Role) (executing : Executing) (parking : hall.stage caller = .parking role) :
      Moves callers hall ({ hall with executing := executing }.put caller (.waiting role))
  | drains (caller : Nat) (waiting : hall.stage caller = .waiting .leader) (drained : hall.executing.drained none = true) :
      Moves callers hall (hall.put caller .popping)
  | follows (caller generation : Nat) (waiting : hall.stage caller = .waiting (.follower generation))
      (settled : hall.rendezvous.generation ≠ generation) : Moves callers hall (hall.put caller (.unparking false))
  | pops (caller callback : Nat) (callbacks : List Nat) (popping : hall.stage caller = .popping)
      (first : hall.rendezvous.callbacks = callback :: callbacks) :
      Moves callers hall
        ({ hall with rendezvous := { hall.rendezvous with callbacks := callbacks } }.put caller (.running callback))
  | ends (caller : Nat) (popping : hall.stage caller = .popping) (none : hall.rendezvous.callbacks = []) :
      Moves callers hall
        ({ hall with
          rendezvous := { generation := hall.rendezvous.generation + 1 }
          sources := false :: hall.sources }.put caller (.unparking true))
  | runs (caller callback : Nat) (running : hall.stage caller = .running callback) :
      Moves callers hall ({ hall with ran := hall.ran ++ [callback] }.put caller .popping)
  | returns (caller : Nat) (led : Bool) (executing : Executing) (unparking : hall.stage caller = .unparking led) :
      Moves callers hall ({ hall with executing := executing }.put caller (.returned led))

theorem proceed_moves (callers : Nat → Caller) (hall : Hall) (caller : Nat) :
    Moves callers hall (hall.proceed callers caller) := by
  unfold Hall.proceed
  cases stage : hall.stage caller with
  | idle =>
      by_cases busy : hall.rendezvous.inProgress = true
      · simp only [Rendezvous.enter, if_pos busy, reduceCtorEq, if_false]
        exact .joins caller stage busy
      · simp only [Rendezvous.enter, if_neg busy, if_true]
        exact .leads caller stage (Bool.eq_false_iff.mpr busy)
  | parking role => exact .parks caller role _ stage
  | waiting role =>
      cases role with
      | leader =>
          by_cases drained : hall.executing.drained none = true
          · simp only [if_pos drained]
            exact .drains caller stage drained
          · simp only [if_neg drained]
            exact .around hall.executing
      | follower generation =>
          by_cases settled : hall.rendezvous.generation = generation
          · simp only [if_pos settled]
            exact .around hall.executing
          · simp only [if_neg settled]
            exact .follows caller generation stage settled
  | popping =>
      unfold Rendezvous.pop
      cases left : hall.rendezvous.callbacks with
      | nil => exact .ends caller stage left
      | cons callback callbacks => exact .pops caller callback callbacks stage left
  | running callback => exact .runs caller callback stage
  | unparking led => exact .returns caller led _ stage
  | returned led => exact .around hall.executing

theorem step_moves (callers : Nat → Caller) (hall : Hall) (move : Move) : Moves callers hall (hall.step callers move) := by
  cases move with
  | proceed caller => exact proceed_moves callers hall caller
  | _ => exact .around _

/-! ### One leader, one order -/

-- Nobody leads, or one call does: what was queued and has not run is in its hands or still in the queue.
inductive Led (hall : Hall) : Prop where
  | nobody (calm : hall.rendezvous.inProgress = false) (empty : hall.rendezvous.callbacks = [])
      (order : hall.queued = hall.ran) (idle : ∀ caller, (hall.stage caller).leads = false)
  | somebody (leader : Nat) (busy : hall.rendezvous.inProgress = true) (leads : (hall.stage leader).leads = true)
      (alone : ∀ caller, (hall.stage caller).leads = true → caller = leader)
      (order : hall.queued = hall.ran ++ ((hall.stage leader).held ++ hall.rendezvous.callbacks))

section Moves

variable {callers : Nat → Caller} {hall after : Hall}

theorem led_by (led : Led hall) (caller : Nat) (leads : (hall.stage caller).leads = true) :
    hall.rendezvous.inProgress = true ∧ (∀ other, (hall.stage other).leads = true → other = caller) ∧
      hall.queued = hall.ran ++ ((hall.stage caller).held ++ hall.rendezvous.callbacks) := by
  cases led with
  | nobody _ _ _ idle =>
      rw [idle caller] at leads
      cases leads
  | somebody leader busy _ alone order =>
      obtain rfl := alone caller leads
      exact ⟨busy, alone, order⟩

theorem ran_in_order (led : Led hall) : hall.ran <+: hall.queued := by
  cases led with
  | nobody _ _ order => exact order ▸ List.prefix_rfl
  | somebody _ _ _ _ order =>
      rw [order]
      exact List.prefix_append _ _

theorem in_progress_iff (led : Led hall) :
    hall.rendezvous.inProgress = true ↔ ∃ caller, (hall.stage caller).leads = true := by
  cases led with
  | nobody calm _ _ idle => simp [calm, idle]
  | somebody leader busy leads => exact ⟨fun _ => ⟨leader, leads⟩, fun _ => busy⟩

theorem led_put (led : Led hall) (executing : Executing) (caller : Nat) (stage : Stage)
    (leads : stage.leads = (hall.stage caller).leads) (held : stage.held = (hall.stage caller).held) :
    Led ({ hall with executing := executing }.put caller stage) := by
  have sameLeads (other : Nat) : (({ hall with executing := executing }.put caller stage).stage other).leads =
      (hall.stage other).leads := by
    by_cases same : other = caller
    · rw [same, Hall.put_same, leads]
    · rw [Hall.put_other _ _ _ _ same]
  have sameHeld (other : Nat) : (({ hall with executing := executing }.put caller stage).stage other).held =
      (hall.stage other).held := by
    by_cases same : other = caller
    · rw [same, Hall.put_same, held]
    · rw [Hall.put_other _ _ _ _ same]
  cases led with
  | nobody calm empty order idle => exact .nobody calm empty order fun other => by rw [sameLeads, idle]
  | somebody leader busy leading alone order =>
      refine .somebody leader busy (by rw [sameLeads, leading]) (fun other => ?_) (by rw [sameHeld]; exact order)
      rw [sameLeads]
      exact alone other

theorem led_stays (led : Led hall) (caller : Nat) (stage : Stage)
    (was : (hall.stage caller).leads = true) (stays : stage.leads = true)
    (stages : after.stage = (hall.put caller stage).stage)
    (progress : after.rendezvous.inProgress = hall.rendezvous.inProgress)
    (order : after.queued = after.ran ++ (stage.held ++ after.rendezvous.callbacks)) : Led after := by
  obtain ⟨busy, alone, _⟩ := led_by led caller was
  have here : after.stage caller = stage := by rw [stages, Hall.put_same]
  refine .somebody caller (progress.trans busy) (by rw [here, stays]) (fun member leading => ?_) (by rw [here, order])
  rw [stages] at leading
  rcases Hall.put_cases leading with ⟨same, _⟩ | ⟨_, before⟩
  · exact same
  · exact alone member before

theorem led_moves (led : Led hall) (moves : Moves callers hall after) :
    Led after := by
  cases moves with
  | around executing =>
      cases led with
      | nobody calm empty order idle => exact .nobody calm empty order idle
      | somebody leader busy leads alone order => exact .somebody leader busy leads alone order
  | joins caller idle busy =>
      cases led with
      | nobody calm => rw [calm] at busy; cases busy
      | somebody leader busy leads alone order =>
          have other : leader ≠ caller := by
            rintro rfl
            rw [idle] at leads
            cases leads
          refine .somebody leader busy (by rw [Hall.put_other _ _ _ _ other]; exact leads) (fun member leading => ?_) ?_
          · rcases Hall.put_cases leading with ⟨_, follower⟩ | ⟨_, before⟩
            · cases follower
            · exact alone member before
          · rw [Hall.put_other _ _ _ _ other]
            simp [Hall.put, order]
  | leads caller idle calm =>
      cases led with
      | somebody _ busy => rw [busy] at calm; cases calm
      | nobody _ empty order nobody =>
          refine .somebody caller rfl (by rw [Hall.put_same]; rfl) (fun member leading => ?_) ?_
          · rcases Hall.put_cases leading with ⟨same, _⟩ | ⟨_, before⟩
            · exact same
            · exact absurd before (by simp [nobody member])
          · rw [Hall.put_same]
            simp [Hall.put, order, empty, Stage.held]
  | parks caller role executing parking =>
      exact led_put led executing caller _ (by rw [parking]; cases role <;> rfl) (by rw [parking]; rfl)
  | drains caller waiting drained =>
      exact led_put led hall.executing caller _ (by rw [waiting]; rfl) (by rw [waiting]; rfl)
  | follows caller generation waiting settled =>
      exact led_put led hall.executing caller _ (by rw [waiting]; rfl) (by rw [waiting]; rfl)
  | pops caller callback callbacks popping first =>
      have order := (led_by led caller (by rw [popping]; rfl)).2.2
      rw [popping, first] at order
      refine led_stays led caller (.running callback) (by rw [popping]; rfl) rfl ?_ ?_ order
      · rfl
      · rfl
  | ends caller popping none =>
      obtain ⟨_, alone, order⟩ := led_by led caller (by rw [popping]; rfl)
      refine .nobody rfl rfl ?_ fun member => ?_
      · rw [popping, none] at order
        simpa [Hall.put, Stage.held] using order
      · by_cases same : member = caller
        · rw [same, Hall.put_same]
          rfl
        · rw [Hall.put_other _ _ _ _ same]
          exact Bool.eq_false_iff.mpr fun leading => same (alone member leading)
  | runs caller callback running =>
      have order := (led_by led caller (by rw [running]; rfl)).2.2
      rw [running] at order
      refine led_stays led caller .popping (by rw [running]; rfl) rfl ?_ ?_ (by simpa [Hall.put, Stage.held] using order)
      · rfl
      · rfl
  | returns caller led_ executing unparking =>
      exact led_put led executing caller _ (by rw [unparking]; rfl) (by rw [unparking]; rfl)

/-! ### No call returns early -/

structure Attended (callers : Nat → Caller) (hall : Hall) (caller : Nat) : Prop where
  fresh : hall.stage caller = .idle → caller ∉ hall.queued
  entered : hall.stage caller ≠ .idle → (callers caller).queues = true → caller ∈ hall.queued
  joined : ∀ generation, (hall.stage caller).joined? = some generation → generation ≤ hall.rendezvous.generation
  settled : (hall.stage caller).isSettled hall.rendezvous.generation = true → (callers caller).queues = true →
    caller ∈ hall.ran

structure Sound (callers : Nat → Caller) (hall : Hall) : Prop where
  led : Led hall
  once : hall.queued.Nodup
  attended : ∀ caller, Attended callers hall caller

theorem sound_start (callers : Nat → Caller) : Sound callers {} :=
  ⟨.nobody rfl rfl rfl fun _ => rfl, List.nodup_nil,
    fun _ => ⟨fun _ => List.not_mem_nil, fun entered => absurd rfl entered, nofun, nofun⟩⟩

theorem attended_kept (caller : Nat) (attended : Attended callers hall caller)
    (stage : after.stage caller = hall.stage caller) (generation : after.rendezvous.generation = hall.rendezvous.generation)
    (queued : caller ∈ after.queued ↔ caller ∈ hall.queued) (ran : caller ∈ hall.ran → caller ∈ after.ran) :
    Attended callers after caller := by
  refine ⟨?_, ?_, ?_, ?_⟩
  · rw [stage, queued]
    exact attended.fresh
  · rw [stage, queued]
    exact attended.entered
  · rw [stage, generation]
    exact attended.joined
  · rw [stage, generation]
    exact fun settled queues => ran (attended.settled settled queues)

theorem offer_eq_some (callers : Nat → Caller) (caller member : Nat) :
    Hall.offer callers caller = some member ↔ caller = member ∧ (callers caller).queues = true := by
  unfold Hall.offer
  split <;> simp [*]

theorem attended_enter (caller : Nat) (rendezvous : Rendezvous Nat) (role : Role) (sources : List Bool)
    (generation : rendezvous.generation = hall.rendezvous.generation)
    (joins : ∀ joined, role = .follower joined → joined = hall.rendezvous.generation)
    (attended : ∀ member, Attended callers hall member) (member : Nat) :
    Attended callers ({ hall with
      rendezvous := rendezvous
      queued := hall.queued ++ (Hall.offer callers caller).toList
      sources := sources }.put caller (.parking role)) member := by
  by_cases same : member = caller
  · subst same
    refine ⟨?_, fun _ queues => ?_, ?_, ?_⟩
    · rw [Hall.put_same]
      nofun
    · have offered := (offer_eq_some callers member member).mpr ⟨rfl, queues⟩
      simp [Hall.put, offered]
    · rw [Hall.put_same]
      intro joined found
      cases role with
      | leader => cases found
      | follower other =>
          obtain rfl := Option.some.inj found
          exact Nat.le_of_eq ((joins other rfl).trans generation.symm)
    · rw [Hall.put_same]
      intro settled
      cases role with
      | leader => cases settled
      | follower other =>
          have less : other < rendezvous.generation := of_decide_eq_true settled
          have equal := joins other rfl
          omega
  · refine attended_kept member (attended member) (Hall.put_other _ _ _ _ same) generation ?_ id
    simp [Hall.put, offer_eq_some, Ne.symm same]

-- One call goes on: no callback is queued, and no rendezvous starts or ends.
structure Continues (hall after : Hall) (caller : Nat) (stage : Stage) : Prop where
  stages : after.stage = (hall.put caller stage).stage
  generation : after.rendezvous.generation = hall.rendezvous.generation
  queued : after.queued = hall.queued
  ran : ∀ member ∈ hall.ran, member ∈ after.ran

theorem attended_continues (caller : Nat) (old stage : Stage)
    (continues : Continues hall after caller stage) (was : hall.stage caller = old) (entered : old ≠ .idle)
    (goes : stage ≠ .idle) (joined : ∀ joined, stage.joined? = some joined → old.joined? = some joined)
    (settled : stage.isSettled hall.rendezvous.generation = true → old.isSettled hall.rendezvous.generation = true)
    (attended : ∀ member, Attended callers hall member) (member : Nat) : Attended callers after member := by
  have before := attended member
  by_cases same : member = caller
  · subst same
    have here : after.stage member = stage := by rw [continues.stages, Hall.put_same]
    refine ⟨?_, ?_, ?_, ?_⟩
    · rw [here]
      exact fun idle => absurd idle goes
    · rw [continues.queued]
      exact fun _ => before.entered (by rw [was]; exact entered)
    · rw [here, continues.generation]
      exact fun other found => before.joined other (by rw [was]; exact joined other found)
    · rw [here, continues.generation]
      exact fun late queues => continues.ran member (before.settled (by rw [was]; exact settled late) queues)
  · have there : after.stage member = hall.stage member := by rw [continues.stages, Hall.put_other _ _ _ _ same]
    exact attended_kept member before there continues.generation (by rw [continues.queued])
      (continues.ran member)

theorem attended_end (sound : Sound callers hall) (caller : Nat)
    (popping : hall.stage caller = .popping) (none : hall.rendezvous.callbacks = []) (member : Nat) :
    Attended callers ({ hall with
      rendezvous := { generation := hall.rendezvous.generation + 1 }
      sources := false :: hall.sources }.put caller (.unparking true)) member := by
  have before := sound.attended member
  have all : hall.queued = hall.ran := by
    obtain ⟨_, _, order⟩ := led_by sound.led caller (by rw [popping]; rfl)
    rw [popping, none] at order
    simpa [Stage.held] using order
  by_cases same : member = caller
  · subst same
    have entered := before.entered (by rw [popping]; nofun)
    refine ⟨?_, fun _ => entered, ?_, fun _ queues => all ▸ entered queues⟩
    · rw [Hall.put_same]
      nofun
    · rw [Hall.put_same]
      nofun
  · refine ⟨?_, ?_, ?_, ?_⟩ <;> rw [Hall.put_other _ _ _ _ same]
    · exact before.fresh
    · exact before.entered
    · exact fun joined found => Nat.le_succ_of_le (before.joined joined found)
    · intro settled queues
      refine all ▸ before.entered (fun idle => ?_) queues
      simp only [idle] at settled
      cases settled

theorem attended_moves (sound : Sound callers hall)
    (moves : Moves callers hall after) (member : Nat) : Attended callers after member := by
  have attended := sound.attended
  cases moves with
  | around executing =>
      have before := attended member
      exact ⟨before.fresh, before.entered, before.joined, before.settled⟩
  | joins caller idle busy =>
      refine attended_enter caller _ _ _ ?_ (fun joined same => ?_) attended member
      · rfl
      · exact (Role.follower.inj same).symm
  | leads caller idle calm =>
      refine attended_enter caller _ _ _ ?_ (fun joined same => ?_) attended member
      · rfl
      · cases same
  | parks caller role executing parking =>
      refine attended_continues caller _ (.waiting role) ?_ parking nofun nofun ?_ ?_ attended member
      · exact ⟨rfl, rfl, rfl, fun _ => id⟩
      · cases role <;> exact fun _ => id
      · cases role <;> exact id
  | drains caller waiting drained =>
      refine attended_continues caller _ .popping ?_ waiting nofun nofun nofun nofun attended member
      exact ⟨rfl, rfl, rfl, fun _ => id⟩
  | follows caller generation waiting moved =>
      refine attended_continues caller _ (.unparking false) ?_ waiting nofun nofun nofun ?_ attended member
      · exact ⟨rfl, rfl, rfl, fun _ => id⟩
      · have upto := (attended caller).joined generation (by rw [waiting]; rfl)
        exact fun _ => decide_eq_true (by omega)
  | pops caller callback callbacks popping first =>
      refine attended_continues caller _ (.running callback) ?_ popping nofun nofun nofun nofun attended member
      exact ⟨rfl, rfl, rfl, fun _ => id⟩
  | ends caller popping none => exact attended_end sound caller popping none member
  | runs caller callback running =>
      refine attended_continues caller _ .popping ?_ running nofun nofun nofun nofun attended member
      exact ⟨rfl, rfl, rfl, fun _ => List.mem_append_left _⟩
  | returns caller led executing unparking =>
      refine attended_continues caller _ (.returned led) ?_ unparking nofun nofun nofun ?_ attended member
      · exact ⟨rfl, rfl, rfl, fun _ => id⟩
      · exact fun _ => rfl

theorem once_enter (caller : Nat) (sound : Sound callers hall)
    (idle : hall.stage caller = .idle) : (hall.queued ++ (Hall.offer callers caller).toList).Nodup := by
  refine List.nodup_append.mpr ⟨sound.once, ?_, fun other member next offered same => ?_⟩
  · cases Hall.offer callers caller <;> simp
  · have here := ((offer_eq_some callers caller next).mp (Option.mem_toList.mp offered)).1
    exact (sound.attended caller).fresh idle (by rw [here, ← same]; exact member)

theorem sound_moves (sound : Sound callers hall)
    (moves : Moves callers hall after) : Sound callers after := by
  refine ⟨led_moves sound.led moves, ?_, attended_moves sound moves⟩
  cases moves with
  | joins caller idle busy => exact once_enter caller sound idle
  | leads caller idle calm => exact once_enter caller sound idle
  | _ => exact sound.once

theorem during_sound (callers : Nat → Caller) (schedule : Nat → Move) (time : Nat) :
    Sound callers (Hall.during callers schedule time) := by
  induction time with
  | zero => exact sound_start callers
  | succ time ih => exact sound_moves ih (step_moves callers _ (schedule time))

end Moves

end Storyline.Completion
