import Storyline.Proofs.Course
import Storyline.Proofs.Hosts
import Storyline.Proofs.Skipping

set_option autoImplicit false

/-!
First visits and return visits. An `await` or `transition` with a body is visited before its body and after it, and a flag
tells which visit is due. Along the playlist the caret does not get out of the block before the return visit, which lowers
the flag. But the block can be left in other ways, and then the flag stays raised: the next arrival counts as a return visit,
and the body is passed over.
-/

namespace Storyline

namespace Playlist

-- A host that is visited twice.
structure Returning (p : Playlist) (host : Nat) : Prop where
  kind : ∃ kind, p.kind? host = some kind ∧ kind.returns = true
  enters : p.enters host = true

theorem body_bound (p : Playlist) (host : Nat) (returning : p.Returning host) : host + 1 < p.length := by
  have deeper := ((p.enters_iff host).mp returning.enters).2
  refine Nat.lt_of_not_le fun past => ?_
  rw [p.indent_past _ past] at deeper
  exact absurd deeper (Nat.not_lt_zero _)

/-! ### No way out along the playlist -/

theorem encloses_next (p : Playlist) (host index : Nat) (encloses : p.Encloses host index)
    (deeper : p.indentAt host < p.indentAt (index + 1)) : p.Encloses host (index + 1) := by
  refine ⟨Nat.lt_succ_of_lt encloses.1, fun other after upto => ?_⟩
  rcases Nat.lt_or_eq_of_le upto with before | same
  · exact encloses.2 other after (Nat.le_of_lt_succ before)
  · exact same ▸ deeper

theorem encloses_last {p : Playlist} {depth first last host : Nat} (run : p.Run depth first last)
    (encloses : p.Encloses host first) (shallow : p.indentAt host < depth) : p.Encloses host last := by
  refine ⟨Nat.lt_of_lt_of_le encloses.1 run.low, fun other after upto => ?_⟩
  by_cases early : other ≤ first
  · exact encloses.2 other after early
  · exact Nat.lt_of_lt_of_le shallow (run.deep other (by omega) upto)

theorem encloses_unique (p : Playlist) (host other index : Nat) (around : p.Encloses host index)
    (also : p.Encloses other index) (level : p.indentAt host = p.indentAt other) : host = other := by
  rcases Nat.lt_trichotomy host other with before | same | after
  · have deeper := around.2 other before (Nat.le_of_lt also.1)
    omega
  · exact same
  · have deeper := also.2 host after (Nat.le_of_lt around.1)
    omega

def LeadsInside (p : Playlist) (host : Nat) (result : Except StructuralError Nat) : Prop :=
  ∀ next, result = .ok next → next = host ∨ p.Encloses host next

-- The induction is on the level that is left, as in `leave_heads`: the returning host is one of the hosts on the way.
theorem leave_inside (p : Playlist) (accepted : p.Accepted) (host : Nat) (returning : p.Returning host) (depth first last : Nat)
    (run : p.Run depth first last) (encloses : p.Encloses host last) (shallow : p.indentAt host < depth) :
    p.LeadsInside host (p.leave depth last) := by
  induction depth generalizing first last with
  | zero => omega
  | succ depth ih =>
      obtain ⟨inner, kind, known, level, around, leaves⟩ :=
        leave_cases p accepted depth last run.inside (run.deep last run.low (Nat.le_refl _))
      have own (same : p.indentAt host = depth) : host = inner :=
        encloses_unique p host inner last encloses around (by omega)
      have outer (other : p.indentAt host ≠ depth) : p.Encloses host inner := by
        rcases Nat.lt_trichotomy host inner with before | same | after
        · exact encloses_between p host last inner encloses before (Nat.le_of_lt around.1)
        · exact absurd (same ▸ level) other
        · have deeper := around.2 host after (Nat.le_of_lt encloses.1)
          omega
      have further (once : kind.policy ≠ .repeated) : p.indentAt host ≠ depth := by
        intro same
        obtain rfl := own same
        obtain ⟨kind', known', returns⟩ := returning.kind
        obtain rfl : kind' = kind := Option.some.inj (known'.symm.trans known)
        exact once (returns_policy _ returns)
      generalize p.leave (depth + 1) last = result at leaves ⊢
      cases leaves with
      | onward deeper =>
          exact fun next same => .inr (Except.ok.inj same ▸ encloses_next p host last encloses (by omega))
      | again =>
          intro next same
          obtain rfl := Except.ok.inj same
          by_cases level : p.indentAt host = depth
          · exact .inl (own level).symm
          · exact .inr (outer level)
      | refused =>
          intro next same
          cases same
      | past once final block =>
          have other := further once
          exact ih inner final block (encloses_last block (outer other) (by omega)) (by omega)
      | outward once closed =>
          have other := further once
          exact ih first last (run.outward closed) encloses (by omega)

section Inside

variable (p : Playlist) (accepted : p.Accepted) (host : Nat) (returning : p.Returning host) (index : Nat)
  (inside : index < p.length) (encloses : p.Encloses host index)
include accepted returning inside encloses

theorem skip_inside : p.LeadsInside host (p.skip index (p.indentAt index)) := by
  have block := run_exit p index inside
  have shallow := encloses.2 index encloses.1 (Nat.le_refl _)
  exact leave_inside p accepted host returning _ index _ block (encloses_last block encloses shallow) shallow

theorem next_member_inside : p.LeadsInside host (p.nextMember index) := by
  have block := run_exit p index inside
  have shallow := encloses.2 index encloses.1 (Nat.le_refl _)
  have last := encloses_last block encloses shallow
  rcases p.next_member_cases index with past | ⟨member, level⟩
  · rw [past]
    exact leave_inside p accepted host returning _ index _ block last shallow
  · intro other same
    exact .inr (Except.ok.inj (member.symm.trans same) ▸ encloses_next p host _ last (by omega))

theorem enter_inside (lookup : String → Option Value) (trail : Trail) (enters : p.enters index = true) :
    p.LeadsInside host (p.enter lookup index trail).1 := by
  obtain ⟨hosts, deeper⟩ := (p.enters_iff index).mp enters
  obtain ⟨command, found⟩ := p.command_found index inside
  have shallow := encloses.2 index encloses.1 (Nat.le_refl _)
  rcases enter_cases p lookup index trail command.kind (p.kind_of index command found) with
    member | past | ⟨_, first⟩ | ⟨_, child, listed, picked⟩
  · rw [member]
    exact next_member_inside p accepted host returning index inside encloses
  · rw [past]
    exact skip_inside p accepted host returning index inside encloses
  · rw [first]
    intro next same
    exact .inr (Except.ok.inj same ▸ encloses_next p host index encloses (by omega))
  · rw [picked]
    intro next same
    obtain ⟨after, _, _, between⟩ := mem_children p index child listed
    exact .inr (Except.ok.inj same ▸ encloses_trans p host index child encloses ⟨after, between⟩)

theorem advance_inside (lookup : String → Option Value) (passed : Bool) (trail : Trail) :
    p.LeadsInside host (p.advance lookup index passed trail).1 := by
  rw [advance]
  split
  · exact skip_inside p accepted host returning index inside encloses
  · rw [move, if_neg (Nat.not_le.mpr inside)]
    by_cases enters : p.enters index = true
    · rw [if_pos enters]
      exact enter_inside p accepted host returning index inside encloses lookup trail enters
    · rw [if_neg enters]
      have alone := run_alone p accepted index inside (Bool.eq_false_iff.mpr enters)
      exact leave_inside p accepted host returning _ index index alone encloses (encloses.2 index encloses.1 (Nat.le_refl _))

end Inside

end Playlist

/-! ### What becomes of the flags -/

theorem Trail.raised_raise (trail : Trail) (host other : Nat) :
    (trail.raise host).isRaised other = (decide (other = host) || trail.isRaised other) := by
  simp [raise, isRaised]

theorem Trail.raised_lower (trail : Trail) (host other : Nat) :
    (trail.lower host).isRaised other = (decide (other ≠ host) && trail.isRaised other) := by
  rw [Bool.eq_iff_iff]
  simp [lower, isRaised, and_comm]

namespace Playlist

theorem consider_raised (p : Playlist) (lookup : String → Option Value) (weights : List Float32) (state : Pick × Trail)
    (child : Nat × Nat) : (p.consider lookup weights state child).2.raised = state.2.raised := by
  unfold consider
  split
  · rfl
  · next command _ =>
      have guarded := state.2.guard_raised lookup command
      split
      · next found => rw [found] at guarded; exact guarded
      · next found => rw [found] at guarded; exact guarded

theorem pick_raised (p : Playlist) (lookup : String → Option Value) (weights : List Float32) (host : Nat) (trail : Trail) :
    (p.pick lookup weights host trail).2.raised = trail.raised := by
  have fold (offers : List (Nat × Nat)) (state : Pick × Trail) :
      (offers.foldl (p.consider lookup weights) state).2.raised = state.2.raised := by
    induction offers generalizing state with
    | nil => rfl
    | cons offer offers ih => exact (ih _).trans (consider_raised p lookup weights state offer)
  exact fold _ _

theorem enter_raised (p : Playlist) (lookup : String → Option Value) (host : Nat) (trail : Trail) (kind : Kind)
    (known : p.kind? host = some kind) (single : kind.returns = false) :
    (p.enter lookup host trail).2.raised = trail.raised := by
  cases kind with
  | branch condition => rw [enter_branch p lookup host trail condition (.inl known), Trail.condition_raised]
  | elseBranch condition => rw [enter_branch p lookup host trail condition (.inr known), Trail.condition_raised]
  | loop condition => rw [enter_loop p lookup host trail condition known, Trail.condition_raised]
  | random weights => rw [enter_random p lookup host trail weights known, pick_raised]
  | delay millis => rw [enter_delay p lookup host trail millis known]
  | await => cases single
  | transition millis => cases single
  | otherwise => rw [enter_plain p lookup host trail _ known (.inr rfl)]
  | _ => rw [enter_plain p lookup host trail _ known (.inl rfl)]

theorem advance_turns (p : Playlist) (lookup : String → Option Value) (index : Nat) (passed : Bool) (trail : Trail) :
    ((p.advance lookup index passed trail).2.raised = trail.raised ∧ (passed = true → ¬p.Returning index)) ∨
      (passed = true ∧ p.Returning index ∧
        p.advance lookup index passed trail =
          if trail.isRaised index then (p.skip index (p.indentAt index), trail.lower index)
          else (.ok (index + 1), trail.raise index)) := by
  by_cases left : (p.isHost index && !passed) = true
  · rw [advance, if_pos left]
    refine .inl ⟨rfl, fun held => ?_⟩
    simp [held] at left
  · rw [advance, if_neg left, move]
    by_cases past : p.length ≤ index
    · rw [if_pos past]
      refine .inl ⟨rfl, fun _ returning => ?_⟩
      have hosts := ((p.enters_iff index).mp returning.enters).1
      exact absurd (p.host_bound index hosts) (Nat.not_lt.mpr past)
    · rw [if_neg past]
      by_cases enters : p.enters index = true
      · rw [if_pos enters]
        have hosts := ((p.enters_iff index).mp enters).1
        have held : passed = true := by simpa [hosts] using left
        obtain ⟨command, found⟩ := p.command_found index (Nat.lt_of_not_le past)
        have known := p.kind_of index command found
        cases returns : command.kind.returns with
        | true =>
            exact .inr ⟨held, ⟨⟨command.kind, known, returns⟩, enters⟩, enter_returning p lookup index trail _ known returns⟩
        | false =>
            refine .inl ⟨enter_raised p lookup index trail _ known returns, fun _ returning => ?_⟩
            obtain ⟨kind, known', twice⟩ := returning.kind
            obtain rfl : kind = command.kind := Option.some.inj (known'.symm.trans known)
            exact absurd (returns.symm.trans twice) Bool.false_ne_true
      · rw [if_neg enters]
        exact .inl ⟨rfl, fun _ returning => enters returning.enters⟩

end Playlist

namespace Player

section Flags

variable (player : Player) (loaded : Loaded)

theorem mem_trail (host : Nat) : host ∈ (player.trail loaded).raised ↔ (loaded.handle, host) ∈ player.raised := by
  simp only [trail, List.mem_map, List.mem_filter, decide_eq_true_eq]
  constructor
  · rintro ⟨⟨handle, other⟩, ⟨member, rfl⟩, rfl⟩
    exact member
  · intro member
    exact ⟨(loaded.handle, host), ⟨member, rfl⟩, rfl⟩

theorem mem_follow (trail : Trail) (flag : Nat × Nat) :
    flag ∈ (player.follow loaded trail).raised ↔
      (flag.1 = loaded.handle ∧ flag.2 ∈ trail.raised) ∨ (flag.1 ≠ loaded.handle ∧ flag ∈ player.raised) := by
  have same : (player.follow loaded trail).raised =
      trail.raised.map (fun host => (loaded.handle, host)) ++ player.otherFlags loaded :=
    ((warn_failures_edits _ trail.failures).spares rfl : Spares {} _ _).raised rfl
  rw [same, List.mem_append, List.mem_map]
  refine or_congr ⟨?_, ?_⟩ ?_
  · rintro ⟨host, member, rfl⟩
    exact ⟨rfl, member⟩
  · rintro ⟨own, member⟩
    exact ⟨flag.2, member, by rw [← own]⟩
  · simp [otherFlags, and_comm]

theorem mem_next (index : Nat) (passed : Bool) (flag : Nat × Nat) :
    flag ∈ (player.next loaded index passed).2.raised ↔
      (flag.1 = loaded.handle ∧
        flag.2 ∈ (loaded.playlist.advance player.store.get? index passed (player.trail loaded)).2.raised) ∨
      (flag.1 ≠ loaded.handle ∧ flag ∈ player.raised) :=
  mem_follow player loaded _ flag

-- A flag is raised only by passing its own host, and then the body comes next.
theorem next_raises (index : Nat) (passed : Bool) (flag : Nat × Nat)
    (raised : flag ∈ (player.next loaded index passed).2.raised) :
    flag ∈ player.raised ∨ (flag = (loaded.handle, index) ∧ loaded.playlist.Returning index ∧
      (player.next loaded index passed).1 = .ok (index + 1)) := by
  rcases (mem_next player loaded index passed flag).mp raised with ⟨own, member⟩ | ⟨_, old⟩
  · have old (member : flag.2 ∈ (player.trail loaded).raised) : flag ∈ player.raised := by
      have before := (mem_trail player loaded flag.2).mp member
      rw [← own] at before
      exact before
    rcases loaded.playlist.advance_turns player.store.get? index passed (player.trail loaded) with
      ⟨same, _⟩ | ⟨_, returning, turned⟩
    · rw [same] at member
      exact .inl (old member)
    · rw [turned] at member
      by_cases due : (player.trail loaded).isRaised index = true
      · rw [if_pos due] at member
        exact .inl (old (List.mem_filter.mp member).1)
      · rw [if_neg due] at member
        rcases List.mem_cons.mp member with here | member
        · refine .inr ⟨Prod.ext own here, returning, ?_⟩
          rw [next, turned, if_neg due]
        · exact .inl (old member)
  · exact .inl old

theorem next_lowers (index : Nat) (returning : loaded.playlist.Returning index)
    (due : (loaded.handle, index) ∈ player.raised) : (loaded.handle, index) ∉ (player.next loaded index true).2.raised := by
  intro raised
  rcases (mem_next player loaded index true _).mp raised with ⟨_, member⟩ | ⟨other, _⟩
  · rcases loaded.playlist.advance_turns player.store.get? index true (player.trail loaded) with ⟨_, single⟩ | ⟨_, _, turned⟩
    · exact single rfl returning
    · have marked : (player.trail loaded).isRaised index = true := by
        simpa [Trail.isRaised] using (mem_trail player loaded index).mpr due
      rw [turned, if_pos marked] at member
      simp [Trail.lower] at member
  · exact other rfl

theorem next_enters (index : Nat) (returning : loaded.playlist.Returning index)
    (fresh : (loaded.handle, index) ∉ player.raised) : (player.next loaded index true).1 = .ok (index + 1) := by
  rcases loaded.playlist.advance_turns player.store.get? index true (player.trail loaded) with ⟨_, single⟩ | ⟨_, _, turned⟩
  · exact absurd returning (single rfl)
  · have unmarked : ¬(player.trail loaded).isRaised index = true := by
      simpa [Trail.isRaised] using fun member => fresh ((mem_trail player loaded index).mp member)
    rw [next, turned, if_neg unmarked]

end Flags

end Player

/-! ### What a move does to the flags -/

-- The playlist that an activity runs beside the caret.
def Activity.run? : Activity → Option Run
  | .transient run | .running _ (.run run) => some run
  | _ => none

-- The pilot that is about to take the caret on.
def Activity.advancing? : Activity → Option Pilot
  | .advancing pilot => some pilot
  | _ => none

theorem Activity.advancing_eq (activity : Activity) (pilot : Pilot) (advances : activity.advancing? = some pilot) :
    activity = .advancing pilot := by
  cases activity with
  | advancing own => exact congrArg Activity.advancing (Option.some.inj advances)
  | _ => cases advances

namespace Player

section Turns

variable (player : Player)

theorem continue_run_flags (run : Run) (passed : Bool) (flag : Nat × Nat)
    (raised : flag ∈ (player.continueRun run passed).2.raised) :
    flag ∈ player.raised ∨ flag = (run.loaded.handle, run.index) := by
  have followed := next_raises player run.loaded run.index passed flag
  unfold continueRun at raised
  split at raised
  · next found =>
      rw [found] at followed
      exact (followed raised).imp_right And.left
  · next found =>
      rw [found] at followed
      exact (followed raised).imp_right And.left

theorem step_run_flags (run : Run) (flag : Nat × Nat) (raised : flag ∈ (player.stepRun run).2.raised) :
    flag ∈ player.raised ∨ flag = (run.loaded.handle, run.index) := by
  unfold stepRun at raised
  split at raised
  · exact .inl raised
  · next command _ =>
      split at raised
      · exact .inl raised
      · have judged : (player.passesGuard command).2.raised = player.raised :=
          ((guard_edits player command).spares rfl : Spares {} _ _).raised rfl
        split at raised
        · next found =>
            rw [found] at judged
            exact judged ▸ continue_run_flags _ run false flag raised
        · next found =>
            rw [found] at judged
            simp only at raised
            split at raised
            · exact .inl (judged ▸ raised)
            · exact (continue_run_flags _ run true flag raised).imp_left fun old => judged ▸ old

theorem resume_run_flags (run : Run) (result : Except Error Unit) (flag : Nat × Nat)
    (raised : flag ∈ (player.resumeCaller (.run run) result).2.raised) :
    flag ∈ player.raised ∨ flag = (run.loaded.handle, run.index) := by
  cases result with
  | ok _ => exact continue_run_flags player run true flag raised
  | error cause => exact .inl raised

theorem clear_visits_flags (loaded : Loaded) (flag : Nat × Nat) (raised : flag ∈ (player.clearVisits loaded).raised) :
    flag ∈ player.raised := (List.mem_filter.mp raised).1

theorem play_flags (script : String) (label : Option String) (flag : Nat × Nat)
    (raised : flag ∈ (player.play script label).2.raised) : flag ∈ player.raised := by
  have entered : (player.entry script label).2.raised = player.raised := (entry_edits player script label).spared.raised rfl
  unfold play at raised
  split at raised
  · next found =>
      rw [found] at entered
      exact entered ▸ raised
  · next loaded index between found =>
      rw [found] at entered
      rw [((Edit.start _).spares.wider rfl : Spares {} _ _).raised rfl] at raised
      have stopped : between.stop.raised = between.raised := ((Edit.stop between .requested (by decide)).spares.wider rfl : Spares {} _ _).raised rfl
      have kept := clear_visits_flags between.stop loaded flag raised
      exact entered ▸ stopped ▸ kept

theorem replace_flags (replacement : Replacement) (flag : Nat × Nat)
    (raised : flag ∈ (player.replace replacement).2.raised) : flag ∈ player.raised := by
  cases replacement with
  | reset =>
      have fold (scripts : List Loaded) (player : Player) (raised : flag ∈ (scripts.foldl clearVisits player).raised) :
          flag ∈ player.raised := by
        induction scripts generalizing player with
        | nil => exact raised
        | cons loaded scripts ih => exact clear_visits_flags player loaded flag (ih _ raised)
      exact fold player.library.scripts { player with playback := player.playback.clear } raised
  | load save rollback =>
      have restored (raised : flag ∈ (player.restore save).2.raised) : flag ∈ player.raised := by
        unfold restore at raised
        split at raised
        · rw [((adopt_edits _ save).spares rfl : Spares {} _ _).raised rfl] at raised
          exact raised
        · next spot _ =>
            have placed : (player.place spot).2.raised = player.raised := (place_edits player spot).spared.raised rfl
            split at raised
            · next found =>
                rw [found] at placed
                exact placed ▸ raised
            · next loaded index between found =>
                rw [found] at placed
                rw [((adopt_edits _ save).spares rfl : Spares {} _ _).raised rfl] at raised
                exact placed ▸ clear_visits_flags between loaded flag raised
      rw [replace_load] at raised
      exact restored raised

end Turns

end Player

variable {activity : Activity} {player : Player} {moved : Activity × Player} (step : activity.step? player = some moved)

theorem run_turns {execution : Execution} {run : Run} (step : (Activity.running execution (.run run)).step? player = some moved) :
    moved.2.raised = player.raised ∨
      ∃ (finished : Player) (result : Except Error Unit), finished.raised = player.raised ∧
        moved = finished.resumeCaller (.run run) result := by
  obtain ⟨⟨progress, between⟩, went, rest⟩ := Option.map_eq_some_iff.mp step
  have before : between.raised = player.raised := (execution.step_spares player progress between went).raised rfl
  subst rest
  cases progress with
  | going next => exact .inl before
  | ended result => exact .inr ⟨_, _, ((Player.finish_edits between execution result).spared.raised rfl).trans before, rfl⟩

include step in
theorem step_flags (other : ∀ pilot, activity ≠ .advancing pilot) (flag : Nat × Nat) (raised : flag ∈ moved.2.raised) :
    flag ∈ player.raised ∨ ∃ run, activity.run? = some run ∧ flag = (run.loaded.handle, run.index) := by
  have same (still : activity.reach.raised = false) : flag ∈ player.raised := by
    rw [(activity.step_spares player moved step).raised still] at raised
    exact raised
  cases activity with
  | asked request =>
      obtain rfl := Option.some.inj step
      cases request with
      | play script label =>
          simp only [Player.ask, Player.answer_player] at raised
          exact .inl (Player.play_flags player script label flag raised)
      | _ => exact .inl (same rfl)
  | advancing pilot => exact absurd rfl (other pilot)
  | running execution caller =>
      cases caller with
      | run run =>
          rcases run_turns step with still | ⟨finished, result, still, rfl⟩
          · exact .inl (still ▸ raised)
          · exact (Player.resume_run_flags _ run _ flag raised).imp (fun old => still ▸ old) fun own => ⟨run, rfl, own⟩
      | _ => exact .inl (same rfl)
  | transient run =>
      obtain rfl := Option.some.inj step
      exact (Player.step_run_flags player run flag raised).imp_right fun own => ⟨run, rfl, own⟩
  | draining replacement =>
      obtain rfl := Activity.draining_step step
      exact .inl (Player.replace_flags player replacement flag raised)
  | _ => exact .inl (same rfl)

namespace Player

section Advances

variable (player : Player)

section Current

variable (generation : Nat) (loaded : Loaded) (current : player.playback.generation = generation)
  (there : player.playback.loaded = some loaded) (ran : player.playback.executed = true)
include current there ran

theorem advance_follows : (player.advance generation).2.raised =
    (player.next loaded player.playback.index player.playback.guardPassed).2.raised := by
  simp only [advance, current, ne_eq, not_true_eq_false, if_false, there, ran, if_true]
  split
  · next found => rw [found]
  · next found =>
      rw [found]
      split
      · rfl
      · unfold checkSkip
        split
        · exact (with_mode_spares _ _ : Spares {} _ _).raised rfl
        · rfl

theorem advance_moves (next : Nat) (leads : (player.next loaded player.playback.index player.playback.guardPassed).1 = .ok next)
    (bound : next < loaded.playlist.length) : Landed player (player.advance generation).2 loaded next false := by
  have still : (player.next loaded player.playback.index player.playback.guardPassed).2.playback.epoch = player.playback.epoch :=
    congrArg Caret.epoch (((next_edits player _ _ _).within rfl : Within {} _ _).caret rfl)
  simp only [advance, current, ne_eq, not_true_eq_false, if_false, there, ran, if_true]
  split
  · next found =>
      rw [found] at leads
      cases leads
  · next other between found =>
      rw [found] at leads still
      obtain rfl : other = next := Except.ok.inj leads
      rw [if_neg (Nat.not_le.mpr bound), Landed, ((check_skip_edits _ _ _).within rfl : Within {} _ _).caret rfl, ← still]
      rfl

end Current

theorem advance_flags (generation : Nat) :
    (player.advance generation).2.raised = player.raised ∨
      ∃ loaded, player.playback.generation = generation ∧ player.playback.loaded = some loaded ∧
        player.playback.executed = true := by
  unfold advance
  split
  · exact .inl rfl
  · next current =>
      split
      · exact .inl rfl
      · next loaded there =>
          split
          · next ran => exact .inr ⟨loaded, not_ne_iff.mp current, there, ran⟩
          · exact .inl rfl

theorem advance_pilot_flags (pilot : Pilot) :
    (player.advancePilot pilot).2.raised = (player.advance pilot.generation).2.raised :=
  ((player.advanced_edits pilot).spares rfl : Spares {} _ _).raised rfl

end Advances

end Player

/-! ### Blocks that are left open -/

-- The caret is at the host or in its block.
def Player.Inside (player : Player) (flag : Nat × Nat) : Prop :=
  ∃ loaded, player.playback.loaded = some loaded ∧ loaded.handle = flag.1 ∧ loaded.playlist.Returning flag.2 ∧
    (player.playback.index = flag.2 ∨ loaded.playlist.Encloses flag.2 player.playback.index)

theorem Player.inside_same (before after : Player) (flag : Nat × Nat) (there : after.playback.loaded = before.playback.loaded)
    (here : after.playback.index = before.playback.index) (inside : before.Inside flag) : after.Inside flag := by
  rw [Inside, there, here]
  exact inside

-- A flag stays raised while the caret is elsewhere.
inductive Abandons (activity : Activity) (before after : Player) (flag : Nat × Nat) : Prop where
  -- the caret leaps out of the block
  | leapt (mover : activity.lands = true) (inside : before.Inside flag) (outside : ¬after.Inside flag)
  -- on the return visit the guard does not hold
  | omitted (pilot : Pilot) (mover : activity = .advancing pilot) (inside : before.Inside flag)
      (here : before.playback.index = flag.2) (refused : before.playback.guardPassed = false) (outside : ¬after.Inside flag)
  -- the body is entered beside the caret
  | beside (run : Run) (mover : activity.run? = some run) (own : flag = (run.loaded.handle, run.index))
      (fresh : flag ∉ before.raised)

include step in
theorem step_raises (flag : Nat × Nat) (fresh : flag ∉ player.raised) (raised : flag ∈ moved.2.raised) :
    Abandons activity player moved.2 flag ∨
      (player.Inside flag ∧ moved.2.Inside flag ∧ moved.2.playback.epoch = player.playback.epoch + 1) := by
  by_cases advances : ∃ pilot, activity = .advancing pilot
  · obtain ⟨pilot, rfl⟩ := advances
    obtain rfl := Option.some.inj step
    have caret := player.advance_pilot_caret pilot
    rw [player.advance_pilot_flags pilot] at raised
    rcases player.advance_flags pilot.generation with same | ⟨loaded, current, there, ran⟩
    · exact absurd (same ▸ raised) fresh
    · rw [player.advance_follows _ loaded current there ran] at raised
      rcases player.next_raises loaded _ _ flag raised with old | ⟨rfl, returning, leads⟩
      · exact absurd old fresh
      · have deeper := ((loaded.playlist.enters_iff _).mp returning.enters).2
        have bound := loaded.playlist.body_bound _ returning
        have landed := caret.trans (player.advance_moves _ loaded current there ran _ leads bound)
        refine .inr ⟨⟨loaded, there, rfl, returning, .inl rfl⟩, ⟨loaded, congrArg Caret.loaded landed, rfl, returning, .inr ?_⟩,
          congrArg Caret.epoch landed⟩
        rw [show (player.advancePilot pilot).2.playback.index = _ from congrArg Caret.index landed]
        refine ⟨Nat.lt_succ_self _, fun other after upto => ?_⟩
        rw [Nat.le_antisymm upto after]
        exact deeper
  · rcases step_flags step (fun pilot same => advances ⟨pilot, same⟩) flag raised with
      old | ⟨run, mover, own⟩
    · exact absurd old fresh
    · exact .inl (.beside run mover own fresh)

include step in
theorem step_inside (sound : player.Sound) (flag : Nat × Nat) (due : flag ∈ player.raised) (inside : player.Inside flag)
    (raised : flag ∈ moved.2.raised) : moved.2.Inside flag ∨ Abandons activity player moved.2 flag := by
  by_cases stays : moved.2.Inside flag
  · exact .inl stays
  · refine .inr ?_
    cases step_shift step with
    | still caret =>
        exact absurd (player.inside_same moved.2 flag (congrArg Caret.loaded caret) (congrArg Caret.index caret) inside) stays
    | settled passed caret =>
        exact absurd (player.inside_same moved.2 flag (congrArg Caret.loaded caret) (congrArg Caret.index caret) inside) stays
    | advanced pilot loaded next mover current there ran leads bound caret =>
        obtain ⟨own, found, handle, returning, place⟩ := inside
        obtain rfl : loaded = own := Option.some.inj (there.symm.trans found)
        rcases place with here | encloses
        · cases passed : player.playback.guardPassed with
          | false => exact .omitted pilot mover ⟨loaded, there, handle, returning, .inl here⟩ here passed stays
          | true =>
              subst mover
              obtain rfl := Option.some.inj step
              rw [player.advance_pilot_flags pilot, player.advance_follows _ loaded current there ran, passed, here,
                show flag = (loaded.handle, flag.2) from Prod.ext handle.symm rfl] at raised
              refine absurd raised (player.next_lowers loaded _ returning ?_)
              rw [handle]
              exact due
        · have onward := loaded.playlist.advance_inside (sound.accepted loaded there) flag.2 returning _
            (sound.bound loaded there) encloses player.store.get? player.playback.guardPassed (player.trail loaded) next leads
          refine absurd ⟨loaded, congrArg Caret.loaded caret, handle, returning, ?_⟩ stays
          rw [show moved.2.playback.index = next from congrArg Caret.index caret]
          exact onward
    | landed loaded index executed mover => exact .leapt mover inside stays
    | cleared mover caret => exact .leapt mover inside stays

namespace World

def Keeps (world : World) (flag : Nat × Nat) : List Move → Prop
  | [] => flag ∈ world.player.raised
  | move :: moves => flag ∈ world.player.raised ∧ (world.move move).Keeps flag moves

theorem keeps_concat (world : World) (flag : Nat × Nat) (moves : List Move) (move : Move) (keeps : world.Keeps flag moves)
    (raised : flag ∈ ((world.after moves).move move).player.raised) : world.Keeps flag (moves ++ [move]) := by
  induction moves generalizing world with
  | nil => exact ⟨keeps, raised⟩
  | cons first moves ih => exact ⟨keeps.1, ih _ keeps.2 raised⟩

-- The flag was abandoned on the way, and has been raised ever since.
def LeftOpen (start : World) (moves : List Move) (flag : Nat × Nat) : Prop :=
  ∃ earlier exit later activity, moves = earlier ++ exit :: later ∧ (start.after earlier).mover? exit = some activity ∧
    Abandons activity (start.after earlier).player ((start.after earlier).move exit).player flag ∧
    ((start.after earlier).move exit).Keeps flag later

theorem left_open_concat (start : World) (moves : List Move) (move : Move) (flag : Nat × Nat)
    (left : start.LeftOpen moves flag) (raised : flag ∈ ((start.after moves).move move).player.raised) :
    start.LeftOpen (moves ++ [move]) flag := by
  obtain ⟨earlier, exit, later, activity, rfl, mover, abandons, keeps⟩ := left
  refine ⟨earlier, exit, later ++ [move], activity, by simp, mover, abandons, keeps_concat _ flag later move keeps ?_⟩
  rw [after_append, after_cons] at raised
  exact raised

theorem move_flags (world : World) (numbered : world.Numbered) (sound : world.player.Sound) (move : Move) (flag : Nat × Nat)
    (raised : flag ∈ (world.move move).player.raised) :
    (∃ activity, world.mover? move = some activity ∧ Abandons activity world.player (world.move move).player flag) ∨
      (flag ∈ world.player.raised ∧ (world.player.Inside flag → (world.move move).player.Inside flag)) ∨
      (world.player.Inside flag ∧ (world.move move).player.Inside flag ∧
        (world.move move).player.playback.epoch = world.player.playback.epoch + 1) := by
  cases (move_comes world numbered move).1 with
  | stays clock requests player =>
      rw [player] at raised ⊢
      exact .inr (.inl ⟨raised, id⟩)
  | moves activity successor others player stage mover _ _ step told _ =>
      rw [told] at raised ⊢
      have retold (abandons : Abandons activity world.player player flag) :
          Abandons activity world.player { player with outbox := [], stage := stage } flag := by
        cases abandons with
        | leapt mover inside outside => exact .leapt mover inside outside
        | omitted pilot mover inside here refused outside => exact .omitted pilot mover inside here refused outside
        | beside run mover own fresh => exact .beside run mover own fresh
      by_cases due : flag ∈ world.player.raised
      · by_cases inside : world.player.Inside flag
        · rcases step_inside step sound flag due inside raised with stays | abandons
          · exact .inr (.inl ⟨due, fun _ => stays⟩)
          · exact .inl ⟨activity, mover, retold abandons⟩
        · exact .inr (.inl ⟨due, fun here => absurd here inside⟩)
      · rcases step_raises step flag due raised with abandons | entered
        · exact .inl ⟨activity, mover, retold abandons⟩
        · exact .inr (.inr entered)

-- The induction is on the run from its end. A flag that is raised is raised by entering the body, and then the caret is inside.
theorem inside_or_left_open (start : World) (numbered : start.Numbered) (sound : start.player.Sound)
    (lowered : start.player.raised = []) (moves : List Move) (supplied : start.Supplied moves) (flag : Nat × Nat)
    (raised : flag ∈ (start.after moves).player.raised) :
    (start.after moves).player.Inside flag ∨ start.LeftOpen moves flag := by
  induction moves using List.reverseRecOn with
  | nil =>
      rw [after_nil, lowered] at raised
      cases raised
  | append_singleton moves move ih =>
      have before := ((supplied_append start moves [move]).mp supplied).1
      rw [after_concat] at raised ⊢
      rcases move_flags _ (after_numbered start numbered moves) (sound_after start numbered moves before sound) move flag raised with
        ⟨activity, mover, abandons⟩ | ⟨due, stays⟩ | ⟨_, entered, _⟩
      · exact .inr ⟨moves, move, [], activity, rfl, mover, abandons, raised⟩
      · rcases ih before due with inside | left
        · exact .inl (stays inside)
        · exact .inr (left_open_concat start moves move flag left raised)
      · exact .inl entered

-- As long as the caret rests where it has come to from outside, its flag is raised only if the block was left open.
theorem resting_left_open (start : World) (numbered : start.Numbered) (sound : start.player.Sound)
    (lowered : start.player.raised = []) (earlier : List Move) (arrive : Move) (stay : List Move)
    (supplied : start.Supplied (earlier ++ arrive :: stay)) (flag : Nat × Nat)
    (outside : ¬(start.after earlier).player.Inside flag)
    (still : (start.after (earlier ++ arrive :: stay)).player.playback.epoch =
      (start.after (earlier ++ [arrive])).player.playback.epoch)
    (raised : flag ∈ (start.after (earlier ++ arrive :: stay)).player.raised) :
    start.LeftOpen (earlier ++ arrive :: stay) flag := by
  induction stay using List.reverseRecOn with
  | nil =>
      have before := ((supplied_append start earlier [arrive]).mp supplied).1
      rw [after_concat] at raised
      rcases move_flags _ (after_numbered start numbered earlier) (sound_after start numbered earlier before sound) arrive flag raised
        with ⟨activity, mover, abandons⟩ | ⟨due, _⟩ | ⟨inside, _, _⟩
      · exact ⟨earlier, arrive, [], activity, rfl, mover, abandons, raised⟩
      · have left := (inside_or_left_open start numbered sound lowered earlier before flag due).resolve_left outside
        exact left_open_concat start earlier arrive flag left raised
      · exact absurd inside outside
  | append_singleton stay move ih =>
      rw [← List.cons_append, ← List.append_assoc] at supplied still raised ⊢
      have before := ((supplied_append start _ [move]).mp supplied).1
      have there := after_numbered start numbered (earlier ++ arrive :: stay)
      have since : (start.after (earlier ++ [arrive])).player.playback.epoch ≤
          (start.after (earlier ++ arrive :: stay)).player.playback.epoch := by
        rw [List.append_cons earlier arrive stay, after_append _ (earlier ++ [arrive])]
        exact epoch_after _ (after_numbered start numbered _) stay
      rw [after_concat] at still raised
      have until_ := epoch_move _ there move
      rcases move_flags _ there (sound_after start numbered _ before sound) move flag raised with
        ⟨activity, mover, abandons⟩ | ⟨due, _⟩ | ⟨_, _, moved⟩
      · exact ⟨_, move, [], activity, rfl, mover, abandons, raised⟩
      · exact left_open_concat start _ move flag (ih before (by omega) due) raised
      · omega

-- Whatever is asked of a player whose scripts are accepted, and in whatever order its activities go on: when the caret has
-- come from outside to a host that is visited twice and the guard holds, it goes on with the first command of the body,
-- unless the block was left open before.
theorem arrival_plays_body_unless_left_open (start : World) (numbered : start.Numbered) (sound : start.player.Sound)
    (lowered : start.player.raised = []) (earlier : List Move) (arrive : Move) (stay : List Move)
    (supplied : start.Supplied (earlier ++ arrive :: stay)) (loaded : Loaded) (host epoch : Nat)
    (returning : loaded.playlist.Returning host)
    (outside : ¬(start.after earlier).player.Inside (loaded.handle, host))
    (arrived : (start.after (earlier ++ [arrive])).player.playback.epoch = epoch)
    (ready : (start.after (earlier ++ arrive :: stay)).player.playback.caret = ⟨some loaded, host, true, true, epoch⟩)
    (next : Move) (pilot : Pilot)
    (mover : (start.after (earlier ++ arrive :: stay)).mover? next = some (.advancing pilot))
    (current : (start.after (earlier ++ arrive :: stay)).player.playback.generation = pilot.generation) :
    (start.after (earlier ++ arrive :: stay ++ [next])).player.playback.caret = ⟨some loaded, host + 1, false, true, epoch + 1⟩ ∨
      start.LeftOpen (earlier ++ arrive :: stay) (loaded.handle, host) := by
  have still := (congrArg Caret.epoch ready).trans arrived.symm
  by_cases raised : (loaded.handle, host) ∈ (start.after (earlier ++ arrive :: stay)).player.raised
  · exact .inr (resting_left_open start numbered sound lowered earlier arrive stay supplied _ outside still raised)
  · refine .inl ?_
    rw [after_concat]
    generalize start.after (earlier ++ arrive :: stay) = world at ready mover current raised ⊢
    obtain ⟨stage, told⟩ := move_acts world next (.advancing pilot) _ mover rfl
    have there : world.player.playback.loaded = some loaded := congrArg Caret.loaded ready
    have here : world.player.playback.index = host := congrArg Caret.index ready
    have ran : world.player.playback.executed = true := congrArg Caret.executed ready
    have passed : world.player.playback.guardPassed = true := congrArg Caret.guardPassed ready
    have leads : (world.player.next loaded world.player.playback.index world.player.playback.guardPassed).1 = .ok (host + 1) := by
      rw [here, passed]
      exact world.player.next_enters loaded host returning raised
    have landed := world.player.advance_moves _ loaded current there ran (host + 1) leads (loaded.playlist.body_bound host returning)
    calc (world.move next).player.playback.caret
      _ = (world.player.advancePilot pilot).2.playback.caret := by rw [told]
      _ = (world.player.advance pilot.generation).2.playback.caret := world.player.advance_pilot_caret pilot
      _ = ⟨some loaded, host + 1, false, true, world.player.playback.epoch + 1⟩ := landed
      _ = ⟨some loaded, host + 1, false, true, epoch + 1⟩ := by
          rw [show world.player.playback.epoch = epoch from congrArg Caret.epoch ready]

-- A barrier whose body leaps out of it, and a way back to the barrier.
def escaping : World where
  player :=
    { draws := ⟨fun _ => 0, 0⟩
      library :=
        { scripts :=
            [⟨0, "road", #[⟨0, ⟨"road", 0, 0⟩, none, true, .label "top"⟩, ⟨0, ⟨"road", 1, 0⟩, none, true, .await⟩,
                ⟨1, ⟨"road", 2, 0⟩, none, true, .goto ⟨none, some "out"⟩⟩, ⟨0, ⟨"road", 3, 0⟩, none, true, .stop⟩,
                ⟨0, ⟨"road", 4, 0⟩, none, true, .label "out"⟩, ⟨0, ⟨"road", 5, 0⟩, none, true, .waitInput⟩,
                ⟨0, ⟨"road", 6, 0⟩, none, true, .goto ⟨none, some "top"⟩⟩]⟩]
          nextHandle := 1 } }

-- Up to the command in front of the barrier, for the second time.
def escape : List Move :=
  List.flatten
    [[.ask (.play "road" none), .front, .leave], List.replicate 23 (.thread 0),
      [.ask (.input .continue), .front, .leave], List.replicate 8 (.thread 0)]

def atBarrier : List Move := List.replicate 6 (.thread 0)

def secondArrival : List Move := escape ++ .thread 0 :: atBarrier

theorem escaping_sound : escaping.player.Sound := by
  refine ⟨fun loaded member => (Playlist.fault_none_iff _).mp (Option.isNone_iff_eq_none.mp ?_), nofun, nofun⟩
  exact (by decide : ∀ loaded ∈ escaping.player.library.scripts, loaded.playlist.fault?.isNone = true) loaded member

theorem second_arrival_left_open : escaping.Supplied secondArrival ∧ escaping.LeftOpen secondArrival (0, 1) := by
  have supplied : escaping.Supplied secondArrival := by decide +kernel
  have outside : ¬(escaping.after escape).player.Inside (0, 1) := by
    rintro ⟨loaded, -, -, -, here⟩
    rw [show (escaping.after escape).player.playback.index = 0 by decide +kernel] at here
    rcases here with same | encloses
    · cases same
    · exact absurd encloses.1 (Nat.not_lt_zero _)
  have hosted : ((escaping.after secondArrival).player.playback.loaded.any fun loaded =>
      loaded.handle = 0 ∧ loaded.playlist.enters 1 = true ∧ (loaded.playlist.kind? 1).any Kind.returns = true) = true := by
    decide +kernel
  obtain ⟨loaded, there, hosts⟩ := (Option.any_eq_true _ _).mp hosted
  obtain ⟨handle, enters, returns⟩ := of_decide_eq_true hosts
  obtain ⟨activity, mover, advances⟩ := (Option.any_eq_true _ _).mp
    (by decide +kernel : ((escaping.after secondArrival).mover? (.thread 0)).any (fun activity =>
      activity.advancing? = some (.loop 1)) = true)
  obtain rfl := activity.advancing_eq (.loop 1) (of_decide_eq_true advances)
  have arrived : (escaping.after (escape ++ [.thread 0])).player.playback.epoch = 8 := by decide +kernel
  have ready : (escaping.after secondArrival).player.playback.caret = ⟨some loaded, 1, true, true, 8⟩ := by
    obtain ⟨index, executed, passed, epoch⟩ :
        let playback := (escaping.after secondArrival).player.playback
        playback.index = 1 ∧ playback.executed = true ∧ playback.guardPassed = true ∧ playback.epoch = 8 := by decide +kernel
    rw [Playback.caret, there, index, executed, passed, epoch]
  rw [secondArrival] at supplied mover ready ⊢
  refine ⟨supplied, handle ▸ (arrival_plays_body_unless_left_open escaping (numbered_new _ rfl) escaping_sound rfl escape
    (.thread 0) atBarrier supplied loaded 1 8 ⟨(Option.any_eq_true _ _).mp returns, enters⟩ (handle.symm ▸ outside) arrived ready
    (.thread 0) (.loop 1) mover (by decide +kernel)).resolve_left ?_⟩
  have missed : (escaping.after (escape ++ .thread 0 :: atBarrier ++ [.thread 0])).player.playback.index ≠ 2 := by decide +kernel
  generalize escaping.after (escape ++ .thread 0 :: atBarrier ++ [.thread 0]) = last at missed ⊢
  exact fun plays => missed (congrArg Caret.index plays)

-- At the second arrival the barrier's guard holds, and the body is passed over.
theorem second_arrival_passes_body_over :
    let before := escaping.after escape
    let arrived := escaping.after secondArrival
    let next := escaping.after (secondArrival ++ [.thread 0])
    escaping.Orderly (secondArrival ++ [.thread 0]) ∧
      (escaping.player.library.scripts.all fun loaded => loaded.playlist.fault?.isNone) = true ∧
      before.player.playback.index = 0 ∧
      (arrived.player.playback.index, arrived.player.playback.executed, arrived.player.playback.guardPassed) = (1, true, true) ∧
      (arrived.player.playback.loaded.any fun loaded => loaded.playlist.enters 1 && (loaded.playlist.kind? 1).any Kind.returns) = true ∧
      (next.player.playback.index, next.player.playback.playing) = (3, true) := by
  decide +kernel

end World

end Storyline
