import Storyline.Proofs.Barriers
import Storyline.Proofs.Chart
import Storyline.Proofs.Modes

set_option autoImplicit false

/-!
Transitions in flight. The return visit of a transition block turns the mask off at once. The first visit captures the picture
before it turns the mask on, and if that fails the command is over and the mask stays as it was.
-/

namespace Storyline

def Kind.isCustom : Kind → Bool
  | .custom _ => true
  | _ => false

theorem Kind.turning_effects (kind : Kind) (builtIn : kind.isCustom = false)
    (turns : kind.effects.any Effect.turnsMask = true) : ∃ millis, kind = .transition millis := by
  cases kind with
  | transition millis => exact ⟨millis, rfl⟩
  | custom command => cases builtIn
  | print line =>
      simp only [Kind.effects] at turns
      split at turns <;> cases turns
  | _ => cases turns

def Effect.isCover : Effect → Bool
  | .cover => true
  | _ => false

theorem Effect.pushes_unmasked {effect more : Effect} {extra : List Effect} (calm : effect.turnsMask = false)
    (pushed : extra ∈ effect.pushes) (member : more ∈ extra) : more.turnsMask = false := by
  cases effect with
  | transition millis => cases calm
  | barrier | awaitOthers =>
      simp only [pushes, List.mem_cons, List.not_mem_nil, or_false] at pushed
      rcases pushed with rfl | rfl
      · cases member
      · obtain rfl := List.mem_singleton.mp member
        rfl
  | _ =>
      obtain rfl := List.mem_singleton.mp pushed
      cases member

namespace Execution

-- The mask is still to be turned by it.
def isDue (execution : Execution) : Bool := execution.todo.any Effect.turnsMask

-- It is known that the mask is to be turned on.
def isCovering (execution : Execution) : Bool := execution.todo.any Effect.isCover

-- What is left of a transition that has still to turn the mask. No interrupt ends the capture of a picture.
inductive Prelude (execution : Execution) : Prop where
  | opening (millis : UInt64) (todo : execution.todo = [.transition millis]) (awake : execution.wait = none)
  | filming (todo : execution.todo = [.capture, .cover]) (awake : execution.wait = none)
  | covering (todo : execution.todo = [.cover]) (calm : ∀ wait, execution.wait = some wait → ∃ deadline, wait = .pause deadline)

def Prepared (execution : Execution) : Prop := execution.isDue = true → execution.Prelude

-- The block that was gone into last, after the command's next move. The door is shut by a return visit.
def door (execution : Execution) (player : Player) (door : Option Nat) : Option Nat :=
  if execution.lane = .main then
    match execution.next? with
    | some (.transition _) => if player.isReturnVisit execution.loaded execution.index then none else door
    | some .cover => some execution.index
    | _ => door
  else door

theorem prepared_of_done {execution : Execution} (done : execution.isDue = false) : execution.Prepared := fun due => by
  cases done.symm.trans due

theorem prepared_new (execution : Execution) (new : execution.origin = execution)
    (builtIn : execution.command.kind.isCustom = false) :
    execution.Prepared ∧ execution.isDue = execution.command.kind.isTransition ∧ execution.isCovering = false := by
  have unbegun : execution.begun = false := congrArg Execution.begun new.symm
  have awake : execution.wait = none := congrArg Execution.wait new.symm
  have todo : execution.todo = execution.command.kind.effects := by simp [Execution.todo, unbegun]
  have bare : execution.isCovering = false := by
    rw [isCovering, todo]
    cases kind : execution.command.kind with
    | custom command => rw [kind] at builtIn; cases builtIn
    | print line =>
        simp only [Kind.effects]
        split <;> rfl
    | _ => rfl
  refine and_assoc.mp ⟨?_, bare⟩
  cases kind : execution.command.kind with
  | transition millis =>
      rw [kind] at todo
      exact ⟨fun _ => .opening millis todo awake, by rw [isDue, todo]; rfl⟩
  | _ =>
      have mild : execution.isDue = false := by
        rw [isDue, todo]
        refine Bool.eq_false_iff.mpr fun turns => ?_
        obtain ⟨millis, own⟩ := Kind.turning_effects _ builtIn turns
        cases kind.symm.trans own
      exact ⟨prepared_of_done mild, mild⟩

theorem door_idle (execution : Execution) (player : Player) (door : Option Nat) (idle : execution.next? = none) :
    execution.door player door = door := by
  rw [Execution.door, idle]
  exact ite_self _

theorem door_next (execution : Execution) (player : Player) (door : Option Nat) (effect : Effect)
    (next : execution.next? = some effect) (calm : effect.turnsMask = false) : execution.door player door = door := by
  rw [Execution.door, next]
  cases effect with
  | transition millis | cover => cases calm
  | _ => exact ite_self _

theorem door_calm (execution : Execution) (player : Player) (door : Option Nat) (calm : execution.turnsMask = false) :
    execution.door player door = door := by
  cases next : execution.next? with
  | none => exact execution.door_idle player door next
  | some effect =>
      rw [turnsMask, next] at calm
      by_cases main : execution.lane = .main
      · rw [decide_eq_true main, Bool.true_and] at calm
        exact execution.door_next player door effect next calm
      · exact if_neg main

theorem due_of_turning (execution : Execution) (turning : execution.turnsMask = true) : execution.isDue = true := by
  have next := (Bool.and_eq_true_iff.mp turning).2
  unfold next? at next
  split at next
  · next ready =>
      obtain ⟨effect, first, turns⟩ := (Option.any_eq_true _ _).mp next
      rw [isDue, todo, if_pos (Bool.and_eq_true_iff.mp ready).2]
      exact List.any_eq_true.mpr ⟨effect, List.mem_of_head? first, turns⟩
  · cases next

theorem step_done (execution next : Execution) (player after : Player) (done : execution.isDue = false)
    (step : execution.step? player = some (.going next, after)) : next.isDue = false := by
  cases step_steps execution player _ after step with
  | wakes wait woken waits _ moved =>
      obtain rfl := unless_failed_going _ next _ (congrArg Prod.fst moved)
      exact done
  | gives _ _ _ _ ended => cases ended
  | begins _ unbegun _ going =>
      obtain rfl := Progress.going.inj going
      rw [isDue, todo, unbegun, if_neg Bool.false_ne_true] at done
      exact done
  | does effect rest awake begun effects moved =>
      have calm : ∀ more ∈ effect :: rest, more.turnsMask = false := by
        rw [isDue, todo, if_pos begun, effects] at done
        simpa using done
      obtain ⟨_, began, _, extra, pushed, more⟩ := perform_going (congrArg Prod.fst moved)
      rw [isDue, todo, if_pos (by rw [began]; exact begun), more, List.any_eq_false]
      intro other member
      rw [Bool.not_eq_true]
      rcases List.mem_append.mp member with new | old
      · exact Effect.pushes_unmasked (calm effect List.mem_cons_self) pushed new
      · exact calm other (List.mem_cons_of_mem _ old)
  | ends _ _ _ _ ended => cases ended

-- What a move of a transition that has still to turn the mask comes to.
inductive Films (execution : Execution) (player after : Player) : Progress → Prop where
  | later (next : Execution) (prepared : next.Prepared) (due : next.isDue = true)
      (opens : next.isCovering = true → execution.isCovering = true ∨
        player.isReturnVisit execution.loaded execution.index = false ∧ execution.loaded.playlist.enters execution.index = true)
      (masked : after.playback.masked = player.playback.masked) (stays : ∀ door, execution.door player door = door) :
      Films execution player after (.going next)
  | leaves (next : Execution) (done : next.isDue = false)
      (visit : player.isReturnVisit execution.loaded execution.index = true) (masked : after.playback.masked = false)
      (shuts : ∀ door, execution.door player door = none) : Films execution player after (.going next)
  | passes (next : Execution) (done : next.isDue = false) (bare : execution.loaded.playlist.enters execution.index = false)
      (masked : after.playback.masked = player.playback.masked) (stays : ∀ door, execution.door player door = door) :
      Films execution player after (.going next)
  | covers (next : Execution) (done : next.isDue = false) (covering : execution.isCovering = true)
      (masked : after.playback.masked = true) (opens : ∀ door, execution.door player door = some execution.index) :
      Films execution player after (.going next)
  | fails (cause : Error) (covering : execution.isCovering = true) (failure : player.presenter.capture.failure = some cause)
      (calm : execution.turnsMask = false) (stays : ∀ door, execution.door player door = door) :
      Films execution player after (.ended (.error cause))
  | gives (result : Except Error Unit) (given : player.isAbandoned execution.token.full = true) :
      Films execution player after (.ended result)

section Perform

variable (execution : Execution) (player : Player)

theorem todo_push (begun : execution.begun = true) (rest extra : List Effect) :
    (push { execution with effects := rest } extra).todo = extra ++ rest := if_pos begun

theorem transition_films (main : execution.lane = .main) (millis : UInt64) (awake : execution.wait = none) (begun : execution.begun = true)
    (next : execution.next? = some (.transition millis)) :
    Films execution player (perform { execution with effects := [] } (.transition millis) player).2
      (perform { execution with effects := [] } (.transition millis) player).1 := by
  have door (door : Option Nat) : execution.door player door =
      if player.isReturnVisit execution.loaded execution.index then none else door := by
    rw [Execution.door, next, if_pos main]
  simp only [perform, mask, if_pos main]
  cases visit : player.isReturnVisit execution.loaded execution.index with
  | true =>
      refine .leaves _ ?_ visit rfl fun before => by rw [door, visit, if_pos rfl]
      rw [isDue, todo_push execution begun]
      rfl
  | false =>
      have stays (before : Option Nat) : execution.door player before = before := by
        rw [door, visit, if_neg Bool.false_ne_true]
      cases enters : execution.loaded.playlist.enters execution.index with
      | true =>
          have todo := todo_push execution begun [] [.capture, .cover]
          refine .later _ (fun _ => .filming todo awake) ?_ (fun _ => .inr ⟨visit, enters⟩) rfl stays
          rw [isDue, todo]
          rfl
      | false =>
          refine .passes _ ?_ enters rfl stays
          rw [isDue, todo_push execution begun]
          rfl

theorem capture_films (awake : execution.wait = none) (begun : execution.begun = true)
    (todo : execution.todo = [.capture, .cover]) (next : execution.next? = some .capture) :
    Films execution player (perform { execution with effects := [.cover] } .capture player).2
      (perform { execution with effects := [.cover] } .capture player).1 := by
  have stays (door : Option Nat) : execution.door player door = door := execution.door_next player door .capture next rfl
  have covering : execution.isCovering = true := by
    rw [isCovering, todo]
    rfl
  have masked : (player.notes player.presenter.capture.opening).playback.masked = player.playback.masked := by
    obtain ⟨stage, same⟩ := player.notes_quiet player.presenter.capture.opening
    rw [same]
  rw [perform_capture]
  rcases capture_comes { execution with effects := [.cover] } player awake with
    ⟨cause, failure, ended⟩ | ⟨_, wait, calm, going⟩
  · rw [ended]
    refine .fails cause covering failure ?_ stays
    rw [turnsMask, next]
    exact Bool.and_false _
  · have rest : Execution.todo { execution with effects := [.cover], wait := wait } = [.cover] := if_pos begun
    rw [going]
    refine .later _ (fun _ => .covering rest calm) ?_ (fun _ => .inl covering) masked stays
    rw [isDue, rest]
    rfl

end Perform

theorem step_films (execution : Execution) (player : Player) (main : execution.lane = .main) (prepared : execution.Prepared)
    (due : execution.isDue = true) (progress : Progress) (after : Player)
    (step : execution.step? player = some (progress, after)) : Films execution player after progress := by
  cases step_steps execution player progress after step with
  | wakes wait woken waits wakes moved =>
      have asleep : execution.next? = none := by simp [next?, waits]
      cases prepared due with
      | opening _ _ awake => cases awake.symm.trans waits
      | filming _ awake => cases awake.symm.trans waits
      | covering todo calm =>
          obtain ⟨deadline, rfl⟩ := calm wait waits
          simp only [wake?] at wakes
          split at wakes
          · obtain rfl := Option.some.inj wakes
            obtain ⟨rfl, rfl⟩ := Prod.mk.inj moved
            refine .later _ (fun _ => .covering todo fun _ waits => by cases waits) due .inl rfl fun door => ?_
            exact execution.door_idle player door asleep
          · cases wakes
  | gives _ _ given _ ended =>
      subst ended
      exact .gives _ given
  | begins awake unbegun same going =>
      subst same going
      have todo : Execution.todo { execution with begun := true, effects := execution.command.kind.effects } = execution.todo := by
        simp [Execution.todo, unbegun]
      have asleep : execution.next? = none := by simp [next?, unbegun]
      refine .later _ (fun _ => ?_) ?_ (fun covering => .inl ?_) rfl fun door => execution.door_idle _ door asleep
      · cases prepared due with
        | opening millis own _ => exact .opening millis (todo.trans own) awake
        | filming own _ => exact .filming (todo.trans own) awake
        | covering own calm => exact .covering (todo.trans own) calm
      · rw [isDue, todo]
        exact due
      · rwa [isCovering, todo] at covering
  | does effect rest awake begun effects moved =>
      have own : execution.todo = effect :: rest := (if_pos begun).trans effects
      have next : execution.next? = some effect := by simp [next?, awake, begun, effects]
      cases prepared due with
      | opening millis todo _ =>
          obtain ⟨rfl, rfl⟩ := List.cons.inj (own.symm.trans todo)
          have films := transition_films execution player main millis awake begun next
          rw [moved] at films
          exact films
      | filming todo _ =>
          obtain ⟨rfl, rfl⟩ := List.cons.inj (own.symm.trans todo)
          have films := capture_films execution player awake begun todo next
          rw [moved] at films
          exact films
      | covering todo _ =>
          obtain ⟨rfl, rfl⟩ := List.cons.inj (own.symm.trans todo)
          obtain ⟨rfl, rfl⟩ := Prod.mk.inj moved
          refine .covers _ ?_ (by rw [isCovering, todo]; rfl) ?_ fun door => by rw [Execution.door, next, if_pos main]
          · rw [isDue, Execution.todo, if_pos begun]
            rfl
          · rw [mask, if_pos main]
  | ends _ begun effects _ _ =>
      rw [isDue, todo, if_pos begun, effects] at due
      cases due

theorem due_of_covering {execution : Execution} (covering : execution.isCovering = true) : execution.isDue = true := by
  obtain ⟨effect, member, covers⟩ := List.any_eq_true.mp covering
  refine List.any_eq_true.mpr ⟨effect, member, ?_⟩
  cases effect with
  | cover => rfl
  | _ => cases covers

theorem step_prepared (execution next : Execution) (player after : Player) (main : execution.lane = .main)
    (prepared : execution.Prepared) (step : execution.step? player = some (.going next, after)) :
    next.Prepared ∧ (next.isDue = true → execution.isDue = true) ∧
      (next.isCovering = true → execution.isCovering = true ∨
        player.isReturnVisit execution.loaded execution.index = false ∧
          execution.loaded.playlist.enters execution.index = true) := by
  cases due : next.isDue with
  | false =>
      refine ⟨prepared_of_done due, nofun, fun covering => ?_⟩
      cases due.symm.trans (due_of_covering covering)
  | true =>
      have before : execution.isDue = true := by
        refine Bool.not_eq_false _ ▸ fun done => ?_
        cases due.symm.trans (step_done execution next player after done step)
      cases step_films execution player main prepared before _ after step with
      | later _ prepared _ opens => exact ⟨prepared, fun _ => before, opens⟩
      | leaves _ done => cases done.symm.trans due
      | passes _ done => cases done.symm.trans due
      | covers _ done => cases done.symm.trans due

end Execution

end Storyline
