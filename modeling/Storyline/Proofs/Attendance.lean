import Storyline.Player.Flight
import Storyline.Proofs.Completion

set_option autoImplicit false

/-!
The player takes part in a rendezvous by the moves of a call. It makes several of them at once: all up to the wait, and all
from the end of the wait on.
-/

namespace Storyline

def Rendezvous.map {α β : Type} (rendezvous : Rendezvous α) (text : α → β) : Rendezvous β :=
  { rendezvous with callbacks := rendezvous.callbacks.map text }

namespace Completion

-- The player has the executing set and the rendezvous of the hall; a callback leaves a note there.
structure Mirrors (text : Nat → String) (player : Player) (hall : Hall) : Prop where
  executing : player.executing = hall.executing
  rendezvous : player.rendezvous = hall.rendezvous.map text

section Player

variable (callers : Nat → Caller) (text : Nat → String) (player : Player) (hall : Hall) (caller : Nat)

theorem enter_map (callback : Option Nat) :
    (hall.rendezvous.map text).enter (callback.map text) =
      ((hall.rendezvous.enter callback).1, (hall.rendezvous.enter callback).2.map text) := by
  unfold Rendezvous.enter Rendezvous.map
  cases callback <;> by_cases busy : hall.rendezvous.inProgress = true <;> simp [busy]

theorem player_entered (callback : Option String) (parked : Option Nat) :
    (player.enterRendezvous callback parked).1 = (player.rendezvous.enter callback).1 ∧
      (player.enterRendezvous callback parked).2.executing = parked.elim player.executing player.executing.park ∧
      (player.enterRendezvous callback parked).2.rendezvous = (player.rendezvous.enter callback).2 := by
  refine ⟨rfl, ?_⟩
  unfold Player.enterRendezvous
  by_cases leads : (player.rendezvous.enter callback).1 = .leader
  · simp only [if_pos leads]
    cases parked <;> exact ⟨rfl, rfl⟩
  · simp only [if_neg leads]
    cases parked <;> exact ⟨rfl, rfl⟩

theorem player_enters (mirrors : Mirrors text player hall) (idle : hall.stage caller = .idle) :
    let entered := player.enterRendezvous ((Hall.offer callers caller).map text) (callers caller).parked
    (hall.alone callers caller 2).stage caller = .waiting entered.1 ∧ Mirrors text entered.2 (hall.alone callers caller 2) := by
  obtain ⟨role, executing, rendezvous⟩ :=
    player_entered player ((Hall.offer callers caller).map text) (callers caller).parked
  rw [mirrors.rendezvous, enter_map] at role rendezvous
  rw [mirrors.executing] at executing
  simp only [Hall.alone, Hall.proceed, idle, Hall.put_same]
  exact ⟨by rw [role], executing, rendezvous⟩

theorem player_unparked (parked : Option Nat) :
    (player.unpark parked).executing = parked.elim player.executing player.executing.unpark ∧
      (player.unpark parked).rendezvous = player.rendezvous ∧ (player.unpark parked).stage = player.stage := by
  cases parked <;> exact ⟨rfl, rfl, rfl⟩

theorem player_noted (lines : List String) :
    (player.notes lines).executing = player.executing ∧
      (player.notes lines).stage = (lines.map fun line => (player.clock, line)).reverse ++ player.stage := by
  induction lines generalizing player with
  | nil => exact ⟨rfl, rfl⟩
  | cons line lines ih =>
      obtain ⟨executing, stage⟩ := ih (player.note line)
      exact ⟨executing, by simpa [Player.notes, Player.note] using stage⟩

theorem player_ended (parked : Option Nat) (left : Player) (leaves : player.leaveRendezvous? .leader parked = some left) :
    player.executing.drained none = true ∧
      left.executing = parked.elim player.executing player.executing.unpark ∧
      left.rendezvous = player.rendezvous.conclude.2 ∧
      left.stage = (player.rendezvous.callbacks.map fun line => (player.clock, line)).reverse ++ player.stage := by
  by_cases drained : player.executing.drained none = true
  · obtain ⟨executing, stage⟩ := player_noted player player.rendezvous.callbacks
    simp only [Player.leaveRendezvous?, if_pos drained, Option.some.injEq] at leaves
    subst leaves
    obtain ⟨unparked, rendezvous, shown⟩ := player_unparked ({ player.notes player.rendezvous.callbacks with
      rendezvous := player.rendezvous.conclude.2 }.tell .rendezvousEnded) parked
    refine ⟨drained, ?_, rendezvous, shown.trans stage⟩
    rw [← executing]
    exact unparked
  · simp only [Player.leaveRendezvous?, if_neg drained] at leaves
    cases leaves

theorem player_leads (left : Player) (mirrors : Mirrors text player hall) (waiting : hall.stage caller = .waiting .leader)
    (leaves : player.leaveRendezvous? .leader (callers caller).parked = some left) :
    left.stage = (hall.rendezvous.callbacks.map fun callback => (player.clock, text callback)).reverse ++ player.stage ∧
    ∃ count, (hall.alone callers caller count).stage caller = .returned true ∧
      (hall.alone callers caller count).ran = hall.ran ++ hall.rendezvous.callbacks ∧
      Mirrors text left (hall.alone callers caller count) := by
  obtain ⟨drained, unparked, ended, shown⟩ := player_ended player (callers caller).parked left leaves
  rw [mirrors.executing] at drained unparked
  rw [mirrors.rendezvous] at ended shown
  have woken : hall.proceed callers caller = hall.put caller .popping := by
    simp only [Hall.proceed, waiting, if_pos drained]
  obtain ⟨count, stage, executing, rendezvous, order⟩ :=
    popping_returns callers (hall.put caller .popping) caller (Hall.put_same hall caller .popping)
  refine ⟨by simpa [Rendezvous.map, Function.comp_def] using shown, count + 1, ?_⟩
  rw [Hall.alone, woken]
  exact ⟨stage, order, unparked.trans executing.symm, by rw [ended, rendezvous]; rfl⟩

theorem player_follows (left : Player) (generation : Nat) (mirrors : Mirrors text player hall)
    (waiting : hall.stage caller = .waiting (.follower generation))
    (leaves : player.leaveRendezvous? (.follower generation) (callers caller).parked = some left) :
    (hall.alone callers caller 2).stage caller = .returned false ∧ Mirrors text left (hall.alone callers caller 2) := by
  unfold Player.leaveRendezvous? at leaves
  by_cases going : player.rendezvous.generation = generation
  · simp only [if_pos going] at leaves
    cases leaves
  · simp only [if_neg going] at leaves
    obtain rfl := Option.some.inj leaves
    obtain ⟨executing, rendezvous, _⟩ := player_unparked player (callers caller).parked
    rw [mirrors.executing] at executing
    rw [mirrors.rendezvous] at rendezvous going
    have moved : hall.rendezvous.generation ≠ generation := going
    simp only [Hall.alone, Hall.proceed, waiting, if_neg moved, Hall.put_same, true_and]
    exact ⟨executing, rendezvous⟩

end Player

end Completion

end Storyline
