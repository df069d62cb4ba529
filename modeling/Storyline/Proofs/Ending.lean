import Storyline.Proofs.Deferral
import Storyline.Proofs.ReturnVisits
import Storyline.Proofs.Tour

set_option autoImplicit false

/-!
Stories without loops end. A step along such a playlist leads forward, or back to an `await` or `transition` around the
command. A return visit counts as a place after the block, in the order in which blocks around each other are left, so it is a
step forward too. Only a walk that starts inside a block whose flag is down can be sent back for good, once for each block.
-/

namespace Storyline

namespace Playlist

variable (p : Playlist)

/-! ### Where a step leads -/

-- Last index of the block at a host.
def lastOf (p : Playlist) (host : Nat) : Nat := p.exitIndex host (p.indentAt host)

theorem last_bound (index : Nat) (inside : index < p.length) : p.lastOf index < p.length :=
  (run_exit p index inside).inside

theorem last_nested (host index : Nat) (inside : index < p.length) (encloses : p.Encloses host index) :
    p.lastOf index ≤ p.lastOf host := by
  have block := run_exit p index inside
  have around := encloses_last block encloses (encloses.2 index encloses.1 (Nat.le_refl _))
  have bound : host < p.length := Nat.lt_trans encloses.1 inside
  have closed := (run_exit p host bound).closed
  refine Nat.le_of_not_lt fun early => ?_
  have low := (run_exit p host bound).low
  have deeper := around.2 (p.lastOf host + 1) (Nat.lt_succ_of_le low) early
  exact absurd closed (Nat.not_le.mpr deeper)

theorem child_around (host child other : Nat) (encloses : p.Encloses host child)
    (level : p.indentAt child = p.indentAt host + 1) (around : p.Encloses other child) :
    other = host ∨ p.Encloses other host := by
  have shallow := around.2 child around.1 (Nat.le_refl _)
  rcases Nat.lt_trichotomy other host with before | same | within
  · exact .inr (encloses_between p other child host around before (Nat.le_of_lt encloses.1))
  · exact .inl same
  · have deeper := encloses.2 other within (Nat.le_of_lt around.1)
    omega

theorem returning_of_back (accepted : p.Accepted)
    (loopFree : ∀ index condition, p.kind? index ≠ some (.loop condition)) (first next : Nat) (back : p.Back first next) :
    p.Returning next := by
  obtain ⟨encloses, kind, known, policy⟩ := back
  have deeper := encloses.2 (next + 1) (Nat.lt_succ_self next) encloses.1
  refine ⟨⟨kind, known, ?_⟩, (p.enters_iff next).mpr ⟨accepted.host next deeper, deeper⟩⟩
  cases kind with
  | loop condition => exact absurd known (loopFree next condition)
  | await => rfl
  | transition millis => rfl
  | _ => cases policy

/-! ### Places in the order of a walk -/

instance (p : Playlist) (host : Nat) : Decidable (p.Returning host) :=
  decidable_of_iff (((p.kind? host).any Kind.returns && p.enters host) = true) (by
    rw [Bool.and_eq_true, Option.any_eq_true]
    exact ⟨fun held => ⟨held.1, held.2⟩, fun returning => ⟨returning.kind, returning.enters⟩⟩)

-- The place of a visit to a command, and that of a return visit: after the block, the inner blocks first.
def placeOf (p : Playlist) (index : Nat) : Nat := index * (p.length + 1)

def returnPlace (p : Playlist) (host : Nat) : Nat := p.lastOf host * (p.length + 1) + (p.length - host)

def place (p : Playlist) (index : Nat) (trail : Trail) : Nat :=
  if p.Returning index ∧ trail.isRaised index = true then p.returnPlace index else p.placeOf index

-- Last index before which a visit cannot lead: the command itself, on a return visit the end of the block.
def stage (p : Playlist) (index : Nat) (trail : Trail) : Nat :=
  if p.Returning index ∧ trail.isRaised index = true then p.lastOf index else index

theorem returning_inside (host : Nat) (returning : p.Returning host) : host < p.length :=
  Nat.lt_of_succ_lt (body_bound p host returning)

theorem last_from (index : Nat) (inside : index < p.length) : index ≤ p.lastOf index :=
  (run_exit p index inside).low

theorem place_from (index : Nat) (trail : Trail) : p.placeOf index ≤ p.place index trail := by
  unfold place
  split
  · next due =>
      have low := Nat.mul_le_mul_right (p.length + 1) (last_from p index (returning_inside p index due.1))
      exact Nat.le_trans low (Nat.le_add_right _ _)
  · exact Nat.le_refl _

theorem place_within (index : Nat) (trail : Trail) (inside : index < p.length) :
    p.place index trail < (p.length + 1) * (p.length + 1) := by
  have below (last : Nat) (bound : last < p.length) (more : Nat) (few : more ≤ p.length) :
      last * (p.length + 1) + more < (p.length + 1) * (p.length + 1) :=
    calc last * (p.length + 1) + more
        < last * (p.length + 1) + (p.length + 1) := Nat.add_lt_add_left (Nat.lt_succ_of_le few) _
      _ = (last + 1) * (p.length + 1) := (Nat.succ_mul _ _).symm
      _ ≤ (p.length + 1) * (p.length + 1) := Nat.mul_le_mul_right _ (Nat.le_succ_of_le bound)
  unfold place
  split
  · exact below _ (last_bound p index inside) _ (Nat.sub_le _ _)
  · exact below index inside 0 (Nat.zero_le _)

theorem place_forward (index next : Nat) (trail after : Trail) (further : p.stage index trail < next) :
    p.place index trail < p.place next after := by
  have upto : p.place index trail < (p.stage index trail + 1) * (p.length + 1) := by
    rw [Nat.succ_mul]
    unfold place stage
    split
    · exact Nat.add_lt_add_left (Nat.lt_succ_of_le (Nat.sub_le _ _)) _
    · exact Nat.lt_add_of_pos_right (Nat.succ_pos _)
  exact Nat.lt_of_lt_of_le upto (Nat.le_trans (Nat.mul_le_mul_right _ further) (place_from p next after))

theorem place_back (index next : Nat) (trail after : Trail) (inside : index < p.length)
    (encloses : p.Encloses next index) (returning : p.Returning next) (due : after.isRaised next = true) :
    p.place index trail < p.place next after := by
  have bound := returning_inside p next returning
  have last := last_nested p next index inside encloses
  have before := encloses.1
  have target : p.place next after = p.returnPlace next := if_pos ⟨returning, due⟩
  rw [target, returnPlace]
  unfold place
  split
  · have ends := Nat.mul_le_mul_right (p.length + 1) last
    unfold returnPlace
    omega
  · have ends := Nat.mul_le_mul_right (p.length + 1) (Nat.le_trans (last_from p index inside) last)
    unfold placeOf
    omega

/-! ### One step -/

-- A block that the walk is in without having come through its host.
structure Pending (p : Playlist) (index : Nat) (trail : Trail) (host : Nat) : Prop where
  returning : p.Returning host
  encloses : p.Encloses host index
  down : trail.isRaised host = false

-- A step enters the block of the command, or it heads past the stage. It turns no flag but that of the command.
structure Treads (p : Playlist) (index : Nat) (trail : Trail) (next : Nat) (after : Trail) : Prop where
  way : (p.Encloses index next ∧ p.indentAt next = p.indentAt index + 1 ∧ p.stage index trail = index ∧
      (p.Returning index → after.isRaised index = true)) ∨ p.Forward index (p.stage index trail) next ∨ p.Back index next
  others : ∀ host, host ≠ index → after.isRaised host = trail.isRaised host

theorem stage_last (index : Nat) (trail : Trail) (inside : index < p.length) :
    p.stage index trail ≤ p.lastOf index := by
  unfold stage
  split
  · exact Nat.le_refl _
  · exact last_from p index inside

theorem stage_single (index : Nat) (trail : Trail) (fresh : p.Returning index → trail.isRaised index = false) :
    p.stage index trail = index := by
  refine if_neg fun due => ?_
  exact Bool.false_ne_true ((fresh due.1).symm.trans due.2)

theorem treads_past (index : Nat) (trail : Trail) (next : Nat) (after : Trail) (inside : index < p.length)
    (result : Except StructuralError Nat) (heads : p.Heads index (p.lastOf index) result) (leads : result = .ok next)
    (others : ∀ host, host ≠ index → after.isRaised host = trail.isRaised host) : p.Treads index trail next after := by
  refine ⟨.inr ((heads next leads).imp_left fun forward => ⟨?_, forward.within, forward.around⟩), others⟩
  exact Nat.lt_of_le_of_lt (stage_last p index trail inside) forward.further

theorem enter_treads (accepted : p.Accepted) (lookup : String → Option Value) (index : Nat) (trail : Trail)
    (enters : p.enters index = true) (next : Nat) (leads : (p.enter lookup index trail).1 = .ok next) :
    p.Treads index trail next (p.enter lookup index trail).2 := by
  obtain ⟨hosts, deeper⟩ := (p.enters_iff index).mp enters
  have inside := p.host_bound index hosts
  obtain ⟨command, found⟩ := p.command_found index inside
  have known := p.kind_of index command found
  have first : p.Encloses index (index + 1) ∧ p.indentAt (index + 1) = p.indentAt index + 1 := by
    have step := accepted.step index
    refine ⟨⟨Nat.lt_succ_self index, fun other after upto => ?_⟩, by omega⟩
    obtain rfl : other = index + 1 := by omega
    exact deeper
  cases returns : command.kind.returns with
  | true =>
      rw [enter_returning p lookup index trail _ known returns] at leads ⊢
      by_cases due : trail.isRaised index = true
      · rw [if_pos due] at leads ⊢
        refine treads_past p index trail next _ inside _ (skip_heads p accepted index inside) leads fun host other => ?_
        simp [Trail.raised_lower, other]
      · rw [if_neg due] at leads ⊢
        obtain rfl : index + 1 = next := Except.ok.inj leads
        refine ⟨.inl ⟨first.1, first.2, stage_single p index trail fun _ => Bool.eq_false_iff.mpr due, fun _ => ?_⟩,
          fun host other => ?_⟩
        · simp [Trail.raised_raise]
        · simp [Trail.raised_raise, other]
  | false =>
      have single : ¬p.Returning index := by
        rintro ⟨⟨kind, known', twice⟩, _⟩
        obtain rfl : kind = command.kind := Option.some.inj (known'.symm.trans known)
        exact Bool.false_ne_true (returns.symm.trans twice)
      have others (host : Nat) (_ : host ≠ index) :
          (p.enter lookup index trail).2.isRaised host = trail.isRaised host := by
        rw [Trail.isRaised, enter_raised p lookup index trail _ known returns]
        rfl
      have inward (here : p.Encloses index next ∧ p.indentAt next = p.indentAt index + 1) :
          p.Treads index trail next (p.enter lookup index trail).2 :=
        ⟨.inl ⟨here.1, here.2, stage_single p index trail fun twice => absurd twice single, fun twice => absurd twice single⟩,
          others⟩
      rcases enter_cases p lookup index trail command.kind known with member | past | ⟨_, into⟩ | ⟨_, child, listed, into⟩
      · exact treads_past p index trail next _ inside _ (next_member_heads p accepted index inside) (member ▸ leads) others
      · exact treads_past p index trail next _ inside _ (skip_heads p accepted index inside) (past ▸ leads) others
      · obtain rfl : index + 1 = next := Except.ok.inj (into.symm.trans leads)
        exact inward first
      · obtain rfl : child = next := Except.ok.inj (into.symm.trans leads)
        obtain ⟨after, _, level, between⟩ := mem_children p index child listed
        exact inward ⟨⟨after, between⟩, level⟩

theorem advance_treads (accepted : p.Accepted) (lookup : String → Option Value) (index : Nat) (passed : Bool)
    (trail : Trail) (inside : index < p.length) (next : Nat) (leads : (p.advance lookup index passed trail).1 = .ok next) :
    p.Treads index trail next (p.advance lookup index passed trail).2 := by
  by_cases left : (p.isHost index && !passed) = true
  · rw [advance, if_pos left] at leads ⊢
    exact treads_past p index trail next trail inside _ (skip_heads p accepted index inside) leads fun _ _ => rfl
  · rw [advance, if_neg left, move, if_neg (Nat.not_le.mpr inside)] at leads ⊢
    by_cases enters : p.enters index = true
    · rw [if_pos enters] at leads ⊢
      exact enter_treads p accepted lookup index trail enters next leads
    · rw [if_neg enters] at leads ⊢
      have alone := run_alone p accepted index inside (Bool.eq_false_iff.mpr enters)
      refine ⟨.inr ?_, fun _ _ => rfl⟩
      rw [stage_single p index trail fun twice => absurd twice.enters enters]
      exact leave_heads p accepted _ index index alone next leads

theorem advance_within (accepted : p.Accepted) (lookup : String → Option Value) (index : Nat) (passed : Bool)
    (trail : Trail) (inside : index < p.length) (next : Nat) (leads : (p.advance lookup index passed trail).1 = .ok next) :
    next ≤ p.length := by
  rcases (advance_treads p accepted lookup index passed trail inside next leads).way with ⟨_, level, _⟩ | forward | back
  · exact Nat.le_of_lt (p.indent_bound next (by omega))
  · exact forward.within
  · exact Nat.le_of_lt (Nat.lt_trans back.1.1 inside)

section Step

variable (p : Playlist) (accepted : p.Accepted) (loopFree : ∀ index condition, p.kind? index ≠ some (.loop condition))
  (index : Nat) (trail : Trail) (inside : index < p.length) (next : Nat) (after : Trail)
  (treads : p.Treads index trail next after)

include treads in
theorem pending_kept (host : Nat) (pending : p.Pending next after host) : p.Pending index trail host := by
  obtain ⟨returning, encloses, down⟩ := pending
  have around : p.Encloses host index := by
    rcases treads.way with ⟨into, level, _, up⟩ | forward | back
    · rcases child_around p index next host into level encloses with same | around
      · subst same
        exact absurd ((up returning).symm.trans down) (Bool.false_ne_true ∘ Eq.symm)
      · exact around
    · exact forward.around host encloses
    · exact encloses_trans p host next index encloses back.1
  refine ⟨returning, around, ?_⟩
  rw [← treads.others host (Nat.ne_of_lt around.1)]
  exact down

include accepted loopFree inside treads in
theorem later_or_pending : p.place index trail < p.place next after ∨ p.Pending index trail next := by
  rcases treads.way with ⟨into, _, stage, _⟩ | forward | back
  · exact .inl (place_forward p index next trail after (by rw [stage]; exact into.1))
  · exact .inl (place_forward p index next trail after forward.further)
  · have returning := returning_of_back p accepted loopFree index next back
    have same := treads.others next (Nat.ne_of_lt back.1.1)
    cases due : trail.isRaised next with
    | true => exact .inl (place_back p index next trail after inside back.1 returning (same.trans due))
    | false => exact .inr ⟨returning, back.1, due⟩

end Step

/-! ### Whole walks -/

-- A walk on which guards are asked too: a host whose guard fails is passed over with its block. Variables and outcomes of the
-- guards are given for every visit.
def stroll (p : Playlist) (stores : Nat → String → Option Value) (passes : Nat → Bool) :
    Nat → Nat → Tour → Except (Halt × Tour) Tour
  | 0, index, tour => if p.length ≤ index then .ok tour else .error (.spent, tour)
  | left + 1, index, tour =>
      if p.length ≤ index then .ok tour
      else
        match p.advance (stores tour.visits.length) index (passes tour.visits.length) tour.trail with
        | (.ok next, trail) => stroll p stores passes left next ⟨index :: tour.visits, trail⟩
        | (.error cause, trail) => .error (.fault cause, ⟨index :: tour.visits, trail⟩)

section Walks

variable (p : Playlist) (stores : Nat → String → Option Value) (passes : Nat → Bool)

theorem stroll_past (left index : Nat) (tour : Tour) (past : p.length ≤ index) :
    p.stroll stores passes left index tour = .ok tour := by
  cases left <;> rw [stroll, if_pos past]

theorem stroll_step (left index : Nat) (tour : Tour) (inside : index < p.length) (next : Nat) (trail : Trail)
    (step : p.advance (stores tour.visits.length) index (passes tour.visits.length) tour.trail = (.ok next, trail)) :
    p.stroll stores passes (left + 1) index tour = p.stroll stores passes left next ⟨index :: tour.visits, trail⟩ := by
  rw [stroll, if_neg (Nat.not_le.mpr inside), step]

variable (accepted : p.Accepted) (loopFree : ∀ index condition, p.kind? index ≠ some (.loop condition))
include accepted loopFree

-- The induction is on the visits that are left. Either the place gets later, or the walk is sent back to a host and
-- all blocks that are pending there have earlier hosts.
theorem stroll_ends (left index bound : Nat) (tour : Tour) (free : index < p.length → ¬p.Deferred index)
    (pending : ∀ host, p.Pending index tour.trail host → host < bound)
    (enough : bound * ((p.length + 1) * (p.length + 1)) + ((p.length + 1) * (p.length + 1) - p.place index tour.trail) ≤ left) :
    ∃ final, p.stroll stores passes left index tour = .ok final := by
  induction left generalizing index bound tour with
  | zero =>
      by_cases inside : index < p.length
      · have within := place_within p index tour.trail inside
        omega
      · exact ⟨tour, stroll_past p stores passes 0 index tour (Nat.le_of_not_lt inside)⟩
  | succ left ih =>
      by_cases inside : index < p.length
      · obtain ⟨next, leads, opens⟩ :=
          advance_safe p accepted (stores tour.visits.length) index (passes tour.visits.length) tour.trail inside (free inside)
        have treads := advance_treads p accepted _ index _ tour.trail inside next leads
        rw [stroll_step p stores passes left index tour inside next _ (Prod.ext leads rfl)]
        have within := place_within p index tour.trail inside
        rcases later_or_pending p accepted loopFree index _ inside next _ treads with later | back
        · refine ih next bound _ opens.2 (fun host held => pending host (pending_kept p index _ next _ treads host held)) ?_
          have nearer := Nat.add_lt_add_left (Nat.sub_lt_sub_left within later) (bound * ((p.length + 1) * (p.length + 1)))
          exact Nat.le_of_lt_succ (Nat.lt_of_lt_of_le nearer enough)
        · have less := pending next back
          refine ih next next _ opens.2 (fun host held => held.encloses.1) ?_
          have fewer := Nat.mul_le_mul_right ((p.length + 1) * (p.length + 1)) less
          rw [Nat.succ_mul] at fewer
          omega
      · exact ⟨tour, stroll_past p stores passes (left + 1) index tour (Nat.le_of_not_lt inside)⟩

end Walks

-- How many of its places a command has before a place.
def placesBefore (p : Playlist) (index place : Nat) : Nat :=
  (if p.placeOf index < place then 1 else 0) + (if p.Returning index ∧ p.returnPlace index < place then 1 else 0)

theorem places_most (index place : Nat) :
    p.placesBefore index place ≤ if p.Returning index then 2 else 1 := by
  unfold placesBefore
  by_cases returning : p.Returning index
  · rw [if_pos returning]
    split <;> split <;> omega
  · have once : ¬(p.Returning index ∧ p.returnPlace index < place) := fun both => returning both.1
    rw [if_neg returning, if_neg once]
    split <;> omega

theorem places_mono (index earlier later : Nat) (less : earlier < later) :
    p.placesBefore index earlier ≤ p.placesBefore index later := by
  unfold placesBefore
  refine Nat.add_le_add ?_ ?_
  · split
    · next before => rw [if_pos (Nat.lt_trans before less)]
    · exact Nat.zero_le _
  · split
    · next before => rw [if_pos ⟨before.1, Nat.lt_trans before.2 less⟩]
    · exact Nat.zero_le _

theorem places_visit (index : Nat) (trail : Trail) (later : Nat) (less : p.place index trail < later) :
    p.placesBefore index (p.place index trail) < p.placesBefore index later := by
  by_cases due : p.Returning index ∧ trail.isRaised index = true
  · have here : p.place index trail = p.returnPlace index := if_pos due
    rw [here] at less ⊢
    have now : ¬(p.Returning index ∧ p.returnPlace index < p.returnPlace index) := fun both => Nat.lt_irrefl _ both.2
    unfold placesBefore
    rw [if_neg now, if_pos (⟨due.1, less⟩ : p.Returning index ∧ p.returnPlace index < later)]
    split
    · next before => simp [Nat.lt_trans before less]
    · exact Nat.succ_pos _
  · have here : p.place index trail = p.placeOf index := if_neg due
    have after : p.Returning index → p.placeOf index ≤ p.returnPlace index := fun returning =>
      Nat.le_trans (Nat.mul_le_mul_right _ (last_from p index (returning_inside p index returning))) (Nat.le_add_right _ _)
    rw [here] at less ⊢
    have now : ¬(p.Returning index ∧ p.returnPlace index < p.placeOf index) := fun both =>
      absurd (after both.1) (Nat.not_le.mpr both.2)
    unfold placesBefore
    rw [if_neg (Nat.lt_irrefl _), if_neg now, if_pos less]
    exact Nat.lt_of_lt_of_le Nat.zero_lt_one (Nat.le_add_right _ _)

theorem stroll_visits (stores : Nat → String → Option Value) (passes : Nat → Bool) (accepted : p.Accepted)
    (loopFree : ∀ index condition, p.kind? index ≠ some (.loop condition)) (left index : Nat) (tour final : Tour)
    (none_pending : ∀ host, ¬p.Pending index tour.trail host)
    (few : ∀ other, tour.visits.count other ≤ p.placesBefore other (p.place index tour.trail))
    (done : p.stroll stores passes left index tour = .ok final) (other : Nat) :
    final.visits.count other ≤ if p.Returning other then 2 else 1 := by
  induction left generalizing index tour with
  | zero =>
      rw [stroll] at done
      split at done
      · obtain rfl : tour = final := Except.ok.inj done
        exact Nat.le_trans (few other) (places_most p other _)
      · cases done
  | succ left ih =>
      by_cases inside : index < p.length
      · obtain ⟨next, leads⟩ : ∃ next,
            (p.advance (stores tour.visits.length) index (passes tour.visits.length) tour.trail).1 = .ok next := by
          cases step : p.advance (stores tour.visits.length) index (passes tour.visits.length) tour.trail with
          | mk result trail =>
              cases result with
              | ok next => exact ⟨next, rfl⟩
              | error cause =>
                  rw [stroll, if_neg (Nat.not_le.mpr inside), step] at done
                  cases done
        have treads := advance_treads p accepted _ index _ tour.trail inside next leads
        rw [stroll_step p stores passes left index tour inside next _ (Prod.ext leads rfl)] at done
        have later := (later_or_pending p accepted loopFree index _ inside next _ treads).resolve_right (none_pending next)
        refine ih next _ (fun host held => none_pending host (pending_kept p index _ next _ treads host held)) ?_ done
        intro visited
        dsimp only
        by_cases here : visited = index
        · subst here
          rw [List.count_cons_self]
          exact Nat.le_trans (Nat.succ_le_succ (few visited)) (places_visit p visited tour.trail _ later)
        · rw [List.count_cons_of_ne (Ne.symm here)]
          exact Nat.le_trans (few visited) (places_mono p visited _ _ later)
      · rw [stroll_past p stores passes (left + 1) index tour (Nat.le_of_not_lt inside)] at done
        obtain rfl : tour = final := Except.ok.inj done
        exact Nat.le_trans (few other) (places_most p other _)

-- An accepted playlist without loops is walked to its end from every command outside delay blocks, whatever the flags, the
-- variables, the draws and the outcomes of guards. From its start each command is visited once, and a host that is visited
-- before and after its block twice.
theorem loop_free_walk_ends (script : String) (commands : List Command) (p : Playlist)
    (built : build script commands = .ok p) (loopFree : ∀ index condition, p.kind? index ≠ some (.loop condition))
    (start : Nat) (free : ¬p.Deferred start) (trail : Trail) (stores : Nat → String → Option Value) (passes : Nat → Bool) :
    ∃ tour, p.stroll stores passes ((p.length + 1) ^ 3) start { trail := trail } = .ok tour ∧
      (start = 0 → ∀ index, tour.visits.count index ≤ if p.Returning index then 2 else 1) := by
  obtain ⟨_, accepted⟩ := (build_ok_iff script commands p).mp built
  have cube : (p.length + 1) ^ 3 = (p.length + 1) * ((p.length + 1) * (p.length + 1)) := by
    rw [Nat.pow_succ, Nat.pow_two, Nat.mul_comm]
  obtain ⟨tour, done⟩ := stroll_ends p stores passes accepted loopFree ((p.length + 1) ^ 3) start p.length
    { trail := trail } (fun _ => free) (fun host held => returning_inside p host held.returning) (by
      rw [cube, Nat.succ_mul p.length ((p.length + 1) * (p.length + 1))]
      exact Nat.add_le_add_left (Nat.sub_le _ _) _)
  refine ⟨tour, done, fun first index => ?_⟩
  subst first
  refine stroll_visits p stores passes accepted loopFree _ 0 _ tour (fun host held => ?_) (fun other => ?_) done index
  · exact absurd held.encloses.1 (Nat.not_lt_zero host)
  · exact Nat.zero_le _

-- Two blocks with return visits in each other, in a branch.
def pausedStory : List Command :=
  [⟨0, {}, none, true, .branch (.var "awake")⟩, ⟨1, {}, none, true, .await⟩, ⟨2, {}, none, true, .transition 5⟩,
    ⟨3, {}, none, true, .waitInput⟩, ⟨2, {}, none, true, .random []⟩, ⟨3, {}, none, true, .waitInput⟩,
    ⟨0, {}, none, true, .otherwise⟩, ⟨1, {}, none, true, .delay 5⟩, ⟨2, {}, none, true, .waitInput⟩, ⟨0, {}, none, true, .stop⟩]

theorem paused_loop_free (index : Nat) (condition : Expr) :
    kind? ⟨"story", pausedStory.toArray⟩ index ≠ some (.loop condition) := by
  intro known
  by_cases inside : index < 10
  · match index, inside with
    | 0, _ | 1, _ | 2, _ | 3, _ | 4, _ | 5, _ | 6, _ | 7, _ | 8, _ | 9, _ => cases known
  · rw [kind?, command_past ⟨"story", pausedStory.toArray⟩ index (Nat.le_of_not_lt inside)] at known
    cases known

theorem paused_command_open : ¬Deferred ⟨"story", pausedStory.toArray⟩ 3 := by
  rintro ⟨host, ⟨millis, delay⟩, before, _⟩
  match host, before with
  | 0, _ | 1, _ | 2, _ => cases delay

theorem paused_start_open : ¬Deferred ⟨"story", pausedStory.toArray⟩ 0 := by
  rintro ⟨host, _, before, _⟩
  exact absurd before (Nat.not_lt_zero host)

-- From inside both blocks, and from the start.
theorem paused_walk_ends :
    build "story" pausedStory = .ok ⟨"story", pausedStory.toArray⟩ ∧
      ∀ (trail : Trail) (stores : Nat → String → Option Value) (passes : Nat → Bool),
        (∃ tour, stroll ⟨"story", pausedStory.toArray⟩ stores passes (11 ^ 3) 3 { trail := trail } = .ok tour) ∧
        ∃ tour, stroll ⟨"story", pausedStory.toArray⟩ stores passes (11 ^ 3) 0 { trail := trail } = .ok tour ∧
          ∀ index, tour.visits.count index ≤ if Returning ⟨"story", pausedStory.toArray⟩ index then 2 else 1 := by
  refine ⟨rfl, fun trail stores passes => ⟨?_, ?_⟩⟩
  · obtain ⟨tour, done, _⟩ := loop_free_walk_ends "story" pausedStory _ rfl paused_loop_free 3 paused_command_open trail stores
      passes
    exact ⟨tour, done⟩
  · obtain ⟨tour, done, counted⟩ := loop_free_walk_ends "story" pausedStory _ rfl paused_loop_free 0 paused_start_open trail
      stores passes
    exact ⟨tour, done, counted rfl⟩

end Playlist

end Storyline
