import Storyline.Proofs.Ending
import Storyline.Proofs.Handles

set_option autoImplicit false

/-!
Bodies of delay blocks. A delay block is played from a copy of its body, whose first level is the top level. Navigation in the
copy leads where it would lead in place if the block were a group: through the same commands with the same draws and flags,
and from the end of the copy to where the block is left.
-/

namespace Storyline

namespace Playlist

variable (p : Playlist)

-- A playlist is the body of a host of another one, moved to the top level.
structure Excerpt (body whole : Playlist) (host : Nat) : Prop where
  hosts : whole.isHost host = true
  within : host + body.length < whole.length
  deep : ∀ index, index < body.length → whole.indentAt host < whole.indentAt (host + 1 + index)
  closed : whole.indentAt (host + 1 + body.length) ≤ whole.indentAt host
  same : ∀ index, index < body.length →
    body.command? index = (whole.command? (host + 1 + index)).map fun command => command.dedent (whole.indentAt host + 1)

namespace Excerpt

section Places

variable {body whole : Playlist} {host : Nat} (excerpt : Excerpt body whole host)
include excerpt

theorem command (index : Nat) (inside : index < body.length) : ∃ command,
    whole.command? (host + 1 + index) = some command ∧ whole.indentAt host + 1 ≤ command.indent ∧
      body.command? index = some (command.dedent (whole.indentAt host + 1)) := by
  have bound := excerpt.within
  obtain ⟨command, found⟩ := whole.command_found (host + 1 + index) (by omega)
  refine ⟨command, found, ?_, ?_⟩
  · rw [← whole.indent_of _ command found]
    exact excerpt.deep index inside
  · rw [excerpt.same index inside, found]
    rfl

theorem indent (index : Nat) (inside : index < body.length) :
    whole.indentAt (host + 1 + index) = body.indentAt index + (whole.indentAt host + 1) := by
  obtain ⟨command, found, deep, copied⟩ := excerpt.command index inside
  rw [whole.indent_of _ command found, body.indent_of _ _ copied]
  exact (Nat.sub_add_cancel deep).symm

theorem indent_le_iff (index : Nat) (upto : index ≤ body.length) (level : Nat) :
    whole.indentAt (host + 1 + index) ≤ level + (whole.indentAt host + 1) ↔ body.indentAt index ≤ level := by
  rcases Nat.lt_or_eq_of_le upto with inside | rfl
  · rw [excerpt.indent index inside]
    exact Nat.add_le_add_iff_right
  · have closed := excerpt.closed
    rw [body.indent_past _ (Nat.le_refl _)]
    exact iff_of_true (by omega) (Nat.zero_le level)

theorem kind (index : Nat) (inside : index < body.length) : whole.kind? (host + 1 + index) = body.kind? index := by
  obtain ⟨command, found, _, copied⟩ := excerpt.command index inside
  rw [whole.kind_of _ command found, body.kind_of _ _ copied]
  rfl

theorem spot (index : Nat) (inside : index < body.length) : whole.spotAt (host + 1 + index) = body.spotAt index := by
  obtain ⟨command, found, _, copied⟩ := excerpt.command index inside
  simp [spotAt, found, copied, Command.dedent]

theorem is_host (index : Nat) (inside : index < body.length) : whole.isHost (host + 1 + index) = body.isHost index := by
  obtain ⟨command, found, _, copied⟩ := excerpt.command index inside
  rw [whole.host_of _ command found, body.host_of _ _ copied]
  rfl

theorem enters (index : Nat) (inside : index < body.length) : whole.enters (host + 1 + index) = body.enters index := by
  have next := excerpt.indent_le_iff (index + 1) inside (body.indentAt index)
  rw [Bool.eq_iff_iff, enters_iff, enters_iff, excerpt.is_host index inside, excerpt.indent index inside]
  exact and_congr_right fun _ => by rw [← Nat.not_le, ← Nat.not_le]; exact not_congr next

theorem exits (index : Nat) (nested : 0 < body.indentAt index) (level : Nat) :
    whole.exits (host + 1 + index) (level + (whole.indentAt host + 1)) = body.exits index level := by
  have inside := body.indent_bound index nested
  have deep := excerpt.deep index inside
  rw [whole.exits_nested _ _ (by omega), body.exits_nested index level nested]
  exact decide_eq_decide.mpr (excerpt.indent_le_iff (index + 1) inside level)

theorem exit_index (start : Nat) (inside : start < body.length) (level : Nat) :
    whole.exitIndex (host + 1 + start) (level + (whole.indentAt host + 1)) = host + 1 + body.exitIndex start level := by
  obtain ⟨low, bound, deeper, closed⟩ := body.exit_index_spec start level inside
  have within := excerpt.within
  refine whole.exit_index_eq _ _ _ (by omega) (by omega) (fun index after upto => ?_) ?_
  · obtain ⟨offset, rfl⟩ : ∃ offset, index = host + 1 + offset := ⟨index - (host + 1), by omega⟩
    have deep := deeper offset (by omega) (by omega)
    rw [excerpt.indent offset (by omega)]
    omega
  · exact (excerpt.indent_le_iff _ bound level).mpr closed

theorem block_end : whole.exitIndex host (whole.indentAt host) = host + body.length := by
  have within := excerpt.within
  refine whole.exit_index_eq host _ _ (Nat.le_add_right _ _) within (fun index after upto => ?_) ?_
  · obtain ⟨offset, rfl⟩ : ∃ offset, index = host + 1 + offset := ⟨index - (host + 1), by omega⟩
    exact excerpt.deep offset (by omega)
  · have close : host + body.length + 1 = host + 1 + body.length := by omega
    rw [close]
    exact excerpt.closed

theorem host_around (index : Nat) (inside : index < body.length) :
    whole.hostAt (host + 1 + index) (whole.indentAt host) = .ok host := by
  have within := excerpt.within
  refine whole.host_at_eq _ host (by omega) (by omega) excerpt.hosts fun other after before => ?_
  obtain ⟨offset, rfl⟩ : ∃ offset, other = host + 1 + offset := ⟨other - (host + 1), by omega⟩
  exact excerpt.deep offset (by omega)

theorem host_at (inner index : Nat) (before : inner < index) (inside : index < body.length)
    (hosts : body.isHost inner = true) (encloses : body.Encloses inner index) :
    whole.hostAt (host + 1 + index) (body.indentAt inner + (whole.indentAt host + 1)) = .ok (host + 1 + inner) := by
  have within := excerpt.within
  have shallow : inner < body.length := Nat.lt_trans before inside
  rw [← excerpt.indent inner shallow]
  refine whole.host_at_eq _ _ (by omega) (by omega) (by rw [excerpt.is_host inner shallow]; exact hosts) ?_
  intro other after upto
  obtain ⟨offset, rfl⟩ : ∃ offset, other = host + 1 + offset := ⟨other - (host + 1), by omega⟩
  have deeper := encloses.2 offset (by omega) (by omega)
  rw [excerpt.indent inner shallow, excerpt.indent offset (by omega)]
  omega

-- The induction is on the members that the copy may still have; in place there may be more, but not of this chain.
theorem chain_end_from (level members more last : Nat) (inside : last < body.length) (enough : body.length - last ≤ members)
    (longer : members ≤ more) :
    whole.chainEndFrom (level + (whole.indentAt host + 1)) more (host + 1 + last) =
      host + 1 + body.chainEndFrom level members last := by
  induction members generalizing more last with
  | zero => omega
  | succ members ih =>
      obtain ⟨more, rfl⟩ : ∃ fewer, more = fewer + 1 := ⟨more - 1, by omega⟩
      by_cases ends : last + 1 < body.length
      · obtain ⟨next, found, deep, copied⟩ := excerpt.command (last + 1) ends
        have level_iff : next.indent = level + (whole.indentAt host + 1) ↔ next.indent - (whole.indentAt host + 1) = level := by
          omega
        have exit := excerpt.exit_index (last + 1) ends level
        obtain ⟨low, bound, _, _⟩ := body.exit_index_spec (last + 1) level ends
        have rest := ih more (body.exitIndex (last + 1) level) bound (by omega) (by omega)
        have found' : whole.command? (host + 1 + last + 1) = some next := found
        have exit' : whole.exitIndex (host + 1 + last + 1) (level + (whole.indentAt host + 1)) =
            host + 1 + body.exitIndex (last + 1) level := exit
        simp only [chainEndFrom, found', copied, Command.dedent, level_iff, exit']
        split
        · split
          · rfl
          · exact rest
        · rfl
      · have close : host + 1 + last + 1 = host + 1 + body.length := by omega
        have past : body.command? (last + 1) = none := body.command_past _ (Nat.le_of_not_lt ends)
        simp only [chainEndFrom, past]
        cases found : whole.command? (host + 1 + last + 1) with
        | none => rfl
        | some next =>
            have closed := excerpt.closed
            rw [← close, whole.indent_of _ next found] at closed
            have shallow : ¬next.indent = level + (whole.indentAt host + 1) := by omega
            simp [shallow]

theorem chain_end (member : Nat) (inside : member < body.length) :
    whole.chainEnd (host + 1 + member) = host + 1 + body.chainEnd member := by
  have within := excerpt.within
  obtain ⟨low, bound, _, _⟩ := body.exit_index_spec member (body.indentAt member) inside
  rw [chainEnd, excerpt.indent member inside, excerpt.exit_index member inside]
  exact excerpt.chain_end_from _ body.length _ _ bound (by omega) (by omega)

theorem body_end (index : Nat) (inside : index < body.length) :
    whole.bodyEnd (host + 1 + index) = host + 1 + body.bodyEnd index := by
  rw [bodyEnd, bodyEnd, excerpt.enters index inside]
  by_cases enters : body.enters index = true
  · rw [if_pos enters, if_pos enters, excerpt.indent index inside]
    exact excerpt.exit_index (index + 1) (body.enters_bound index enters) _
  · rw [if_neg enters, if_neg enters]

theorem children (index : Nat) (inside : index < body.length) :
    whole.children (host + 1 + index) = (body.children index).map (host + 1 + ·) := by
  have size : whole.bodyEnd (host + 1 + index) - (host + 1 + index) = body.bodyEnd index - index := by
    rw [excerpt.body_end index inside]
    omega
  have range : List.range' (host + 1 + index + 1) (body.bodyEnd index - index) =
      (List.range' (index + 1) (body.bodyEnd index - index)).map (host + 1 + ·) := by
    rw [List.map_add_range']
    rfl
  have upto : body.bodyEnd index < body.length := by
    rw [bodyEnd]
    split
    · next enters => exact (body.exit_index_spec (index + 1) _ (body.enters_bound index enters)).2.1
    · exact inside
  rw [Playlist.children, Playlist.children, size, range, List.filter_map]
  refine congrArg _ (List.filter_congr fun child member => ?_)
  have bounds := List.mem_range'_1.mp member
  have level := excerpt.indent child (by omega)
  have own := excerpt.indent index inside
  simp only [Function.comp_apply, level, own]
  exact decide_eq_decide.mpr (by omega)

end Places

end Excerpt

/-! ### Leaving -/

-- Where a way through the copy leads in place: past its end the block is left.
def carried (whole : Playlist) (host size : Nat) : Except StructuralError Nat → Except StructuralError Nat
  | .error cause => .error cause
  | .ok next => if next < size then .ok (host + 1 + next) else whole.skip host (whole.indentAt host)

theorem carried_inside (whole : Playlist) (host size next : Nat) (inside : next < size) :
    whole.carried host size (.ok next) = .ok (host + 1 + next) :=
  if_pos inside

namespace Excerpt

section Leaving

variable {body whole : Playlist} {host : Nat} (excerpt : Excerpt body whole host) (accepted : body.Accepted)
  (plain : ∃ kind, whole.kind? host = some kind ∧ kind.policy = .plain)
include excerpt accepted plain

-- The induction is on the level that is left in the copy. From its top level the block is left as a group is.
theorem leave (depth first last : Nat) (run : body.Run depth first last) :
    whole.leave (depth + (whole.indentAt host + 1)) (host + 1 + last) =
      whole.carried host body.length (body.leave depth last) := by
  induction depth generalizing first last with
  | zero =>
      obtain ⟨kind, known, policy⟩ := plain
      have nested := excerpt.deep last run.inside
      rw [Nat.zero_add, leave_succ whole _ _ host kind (excerpt.host_around last run.inside) known, policy, leaveBy,
        whole.exits_nested _ _ (by omega)]
      simp only [Playlist.leave, carried]
      by_cases ends : last + 1 < body.length
      · have deep : ¬whole.indentAt (host + 1 + last + 1) ≤ whole.indentAt host := Nat.not_le.mpr (excerpt.deep (last + 1) ends)
        rw [if_pos ends, if_neg (by simpa using deep)]
        rfl
      · have past : last + 1 = body.length := Nat.le_antisymm run.inside (Nat.le_of_not_lt ends)
        have closed : whole.indentAt (host + 1 + last + 1) ≤ whole.indentAt host := by
          have closed := excerpt.closed
          rw [← past] at closed
          exact closed
        rw [if_neg ends, if_pos (by simpa using closed), skip, excerpt.block_end]
        congr 1
        omega
  | succ depth ih =>
      have deep := run.deep last run.low (Nat.le_refl _)
      obtain ⟨inner, hosted, hosts, level, around⟩ := host_found body accepted last depth run.inside (by omega)
      have bound := body.host_bound inner hosts
      obtain ⟨command, found⟩ := body.command_found inner bound
      have known := body.kind_of inner command found
      have known' : whole.kind? (host + 1 + inner) = some command.kind := (excerpt.kind inner bound).trans known
      have hosted' := excerpt.host_at inner last around.1 run.inside hosts around
      rw [level] at hosted'
      have shift : depth + 1 + (whole.indentAt host + 1) = depth + (whole.indentAt host + 1) + 1 := by omega
      rw [shift, leave_succ whole _ _ _ command.kind hosted' known', leave_succ body depth last inner command.kind hosted known]
      have exits := excerpt.exits last (by omega) depth
      have onward (stays : ¬body.exits last depth = true) :
          (.ok (host + 1 + last + 1) : Except StructuralError Nat) = whole.carried host body.length (.ok (last + 1)) := by
        rw [body.exits_nested last depth (by omega)] at stays
        have inside : last + 1 < body.length := body.indent_bound _ (by simp at stays; omega)
        exact (carried_inside whole host _ _ inside).symm
      cases policy : command.kind.policy with
      | whole =>
          have block := run_exit body inner bound
          rw [level] at block
          rw [leaveBy, leaveBy, excerpt.exit_index inner bound]
          exact ih inner _ block
      | refused =>
          rw [leaveBy, leaveBy, excerpt.spot last run.inside]
          rfl
      | chained =>
          have chain := run_chain_end body inner bound
          rw [level] at chain
          rw [leaveBy, leaveBy, exits, excerpt.chain_end inner bound]
          by_cases leaving : body.exits last depth = true
          · rw [if_pos leaving, if_pos leaving]
            exact ih inner _ chain
          · rw [if_neg leaving, if_neg leaving]
            exact onward leaving
      | repeated =>
          rw [leaveBy, leaveBy, exits]
          by_cases leaving : body.exits last depth = true
          · rw [if_pos leaving, if_pos leaving, carried_inside whole host _ _ bound]
          · rw [if_neg leaving, if_neg leaving]
            exact onward leaving
      | plain =>
          rw [leaveBy, leaveBy, exits]
          by_cases leaving : body.exits last depth = true
          · rw [if_pos leaving, if_pos leaving]
            rw [body.exits_nested last depth (by omega)] at leaving
            refine ih first last ⟨run.low, run.inside, fun index low high => ?_, of_decide_eq_true leaving⟩
            exact Nat.le_of_succ_le (run.deep index low high)
          · rw [if_neg leaving, if_neg leaving]
            exact onward leaving

section Hosts

variable (index : Nat) (inside : index < body.length)
include inside

theorem skip : whole.skip (host + 1 + index) (whole.indentAt (host + 1 + index)) =
    whole.carried host body.length (body.skip index (body.indentAt index)) := by
  rw [excerpt.indent index inside, Playlist.skip, excerpt.exit_index index inside]
  exact excerpt.leave accepted plain _ index _ (run_exit body index inside)

theorem next_member : whole.nextMember (host + 1 + index) = whole.carried host body.length (body.nextMember index) := by
  have block := run_exit body index inside
  have left := excerpt.leave accepted plain _ index _ block
  simp only [nextMember, excerpt.indent index inside, excerpt.exit_index index inside]
  by_cases ends : body.exitIndex index (body.indentAt index) + 1 < body.length
  · obtain ⟨next, found, deep, copied⟩ := excerpt.command _ ends
    have found' : whole.command? (host + 1 + body.exitIndex index (body.indentAt index) + 1) = some next := found
    have level_iff : next.indent = body.indentAt index + (whole.indentAt host + 1) ↔
        next.indent - (whole.indentAt host + 1) = body.indentAt index := by omega
    simp only [found', copied, Command.dedent, level_iff]
    split
    · exact (carried_inside whole host _ _ ends).symm
    · exact left
  · rw [body.command_past _ (Nat.le_of_not_lt ends)]
    have close : host + 1 + body.exitIndex index (body.indentAt index) + 1 = host + 1 + body.length := by
      have bound := block.inside
      omega
    have closed := excerpt.closed
    rw [← close] at closed
    cases found : whole.command? (host + 1 + body.exitIndex index (body.indentAt index) + 1) with
    | none => exact left
    | some next =>
        rw [whole.indent_of _ next found] at closed
        have shallow : ¬next.indent = body.indentAt index + (whole.indentAt host + 1) := by omega
        simp only [shallow, decide_false, Bool.false_and]
        exact left

end Hosts

end Leaving

end Excerpt

/-! ### Entering -/

-- The same draws and failures, and the flags of the copy are those of the body in place.
structure Aligned (host size : Nat) (inner outer : Trail) : Prop where
  draws : outer.draws = inner.draws
  failures : outer.failures = inner.failures
  flags : ∀ index, index < size → outer.isRaised (host + 1 + index) = inner.isRaised index

section Aligned

variable {host size : Nat} {inner outer : Trail} (aligned : Aligned host size inner outer)
include aligned

theorem condition_aligned (lookup : String → Option Value) (expr : Expr) :
    (outer.condition lookup expr).1 = (inner.condition lookup expr).1 ∧
      Aligned host size (inner.condition lookup expr).2 (outer.condition lookup expr).2 := by
  unfold Trail.condition
  cases expr.holds lookup with
  | ok value => exact ⟨rfl, aligned⟩
  | error failure => exact ⟨rfl, aligned.draws, congrArg (failure :: ·) aligned.failures, aligned.flags⟩

theorem guard_aligned (lookup : String → Option Value) (command copy : Command) (same : copy.guard = command.guard) :
    (outer.passesGuard lookup command).1 = (inner.passesGuard lookup copy).1 ∧
      Aligned host size (inner.passesGuard lookup copy).2 (outer.passesGuard lookup command).2 := by
  unfold Trail.passesGuard
  rw [same]
  cases command.guard with
  | none => exact ⟨rfl, aligned⟩
  | some guard => exact condition_aligned aligned lookup guard

theorem draw_aligned : outer.draw.1 = inner.draw.1 ∧ Aligned host size inner.draw.2 outer.draw.2 :=
  ⟨congrArg (fun draws : Draws => draws.next.1) aligned.draws,
    congrArg (fun draws : Draws => draws.next.2) aligned.draws, aligned.failures, aligned.flags⟩

end Aligned

-- The best child so far, in the copy and in place.
structure AlignedPick (host size : Nat) (inner outer : Pick × Trail) : Prop where
  best : outer.1.best = inner.1.best.map (host + 1 + ·)
  score : outer.1.score = inner.1.score
  trail : Aligned host size inner.2 outer.2

namespace Excerpt

section Entering

variable {body whole : Playlist} {host : Nat} (excerpt : Excerpt body whole host)
include excerpt

theorem consider (lookup : String → Option Value) (weights : List Float32) (inner outer : Pick × Trail)
    (aligned : AlignedPick host body.length inner outer) (child position : Nat) (inside : child < body.length) :
    AlignedPick host body.length (body.consider lookup weights inner (child, position))
      (whole.consider lookup weights outer (host + 1 + child, position)) := by
  obtain ⟨command, found, _, copied⟩ := excerpt.command child inside
  obtain ⟨passes, judged⟩ := guard_aligned aligned.trail lookup command (command.dedent (whole.indentAt host + 1)) rfl
  unfold Playlist.consider
  simp only [found, copied]
  cases here : inner.2.passesGuard lookup (command.dedent (whole.indentAt host + 1)) with
  | mk passed trail =>
      cases there : outer.2.passesGuard lookup command with
      | mk passed' trail' =>
          rw [here, there] at passes judged
          obtain rfl : passed' = passed := passes
          cases passed' with
          | false => exact ⟨aligned.best, aligned.score, judged⟩
          | true =>
              obtain ⟨drawn, rest⟩ := draw_aligned judged
              simp only [drawn, aligned.score]
              split
              · exact ⟨rfl, rfl, rest⟩
              · exact ⟨aligned.best, aligned.score, rest⟩

theorem pick (lookup : String → Option Value) (weights : List Float32) (index : Nat) (inside : index < body.length)
    (inner outer : Trail) (aligned : Aligned host body.length inner outer) :
    (whole.pick lookup weights (host + 1 + index) outer).1 = (body.pick lookup weights index inner).1.map (host + 1 + ·) ∧
      Aligned host body.length (body.pick lookup weights index inner).2
        (whole.pick lookup weights (host + 1 + index) outer).2 := by
  have fold (offers : List (Nat × Nat)) (known : ∀ offer ∈ offers, offer.1 < body.length) (inner outer : Pick × Trail)
      (aligned : AlignedPick host body.length inner outer) :
      AlignedPick host body.length (offers.foldl (body.consider lookup weights) inner)
        ((offers.map (Prod.map (host + 1 + ·) id)).foldl (whole.consider lookup weights) outer) := by
    induction offers generalizing inner outer with
    | nil => exact aligned
    | cons offer offers ih =>
        refine ih (fun other member => known other (List.mem_cons_of_mem _ member)) _ _ ?_
        exact excerpt.consider lookup weights inner outer aligned offer.1 offer.2 (known offer List.mem_cons_self)
  have offers : (whole.children (host + 1 + index)).zipIdx =
      (body.children index).zipIdx.map (Prod.map (host + 1 + ·) id) := by
    rw [excerpt.children index inside, List.zipIdx_map]
  have known (offer : Nat × Nat) (member : offer ∈ (body.children index).zipIdx) : offer.1 < body.length :=
    (mem_children body index offer.1 (List.fst_mem_of_mem_zipIdx member)).2.1
  have picked := fold _ known ({}, inner) ({}, outer) ⟨rfl, rfl, aligned⟩
  rw [← offers] at picked
  exact ⟨picked.best, picked.trail⟩

variable (accepted : body.Accepted) (plain : ∃ kind, whole.kind? host = some kind ∧ kind.policy = .plain)
include accepted plain

variable (lookup : String → Option Value) (index : Nat) (inside : index < body.length) (inner outer : Trail)
  (aligned : Aligned host body.length inner outer)
include inside aligned

section Blocks

variable (enters : body.enters index = true)
include enters

theorem enter_branched (condition : Expr)
    (own : body.kind? index = some (.branch condition) ∨ body.kind? index = some (.elseBranch condition)) :
    (whole.enter lookup (host + 1 + index) outer).1 = whole.carried host body.length (body.enter lookup index inner).1 ∧
      Aligned host body.length (body.enter lookup index inner).2 (whole.enter lookup (host + 1 + index) outer).2 := by
  obtain ⟨holds, rest⟩ := condition_aligned aligned lookup condition
  have own' := own
  rw [← excerpt.kind index inside] at own'
  rw [Playlist.enter_branch body lookup index inner condition own,
    Playlist.enter_branch whole lookup _ outer condition own', holds]
  refine ⟨?_, rest⟩
  split
  · exact (carried_inside whole host _ _ (body.enters_bound index enters)).symm
  · exact excerpt.next_member accepted plain index inside

theorem enter_returns (kind : Kind) (own : body.kind? index = some kind) (returns : kind.returns = true) :
    (whole.enter lookup (host + 1 + index) outer).1 = whole.carried host body.length (body.enter lookup index inner).1 ∧
      Aligned host body.length (body.enter lookup index inner).2 (whole.enter lookup (host + 1 + index) outer).2 := by
  have own' := (excerpt.kind index inside).trans own
  have own_iff (other : Nat) : host + 1 + other = host + 1 + index ↔ other = index := by omega
  rw [enter_returning body lookup index inner _ own returns, enter_returning whole lookup _ outer _ own' returns,
    aligned.flags index inside]
  by_cases due : inner.isRaised index = true
  · rw [if_pos due, if_pos due]
    refine ⟨excerpt.skip accepted plain index inside, aligned.draws, aligned.failures, fun other bound => ?_⟩
    simp only [Trail.raised_lower, aligned.flags other bound, ne_eq, own_iff]
  · rw [if_neg due, if_neg due]
    have first := (carried_inside whole host _ _ (body.enters_bound index enters)).symm
    refine ⟨first, aligned.draws, aligned.failures, fun other bound => ?_⟩
    simp only [Trail.raised_raise, aligned.flags other bound, own_iff]

theorem enter :
    (whole.enter lookup (host + 1 + index) outer).1 = whole.carried host body.length (body.enter lookup index inner).1 ∧
      Aligned host body.length (body.enter lookup index inner).2 (whole.enter lookup (host + 1 + index) outer).2 := by
  obtain ⟨command, found⟩ := body.command_found index inside
  have known := body.kind_of index command found
  have known' := (excerpt.kind index inside).trans known
  have past := excerpt.skip accepted plain index inside
  have first := (carried_inside whole host _ _ (body.enters_bound index enters)).symm
  have branched := excerpt.enter_branched accepted plain lookup index inside inner outer aligned enters
  have returning := excerpt.enter_returns accepted plain lookup index inside inner outer aligned enters
  cases kind : command.kind with
  | branch condition => exact branched condition (.inl (kind ▸ known))
  | elseBranch condition => exact branched condition (.inr (kind ▸ known))
  | loop condition =>
      rw [kind] at known known'
      obtain ⟨holds, rest⟩ := condition_aligned aligned lookup condition
      rw [enter_loop body lookup index inner condition known, enter_loop whole lookup _ outer condition known', holds]
      refine ⟨?_, rest⟩
      split
      · exact first
      · exact past
  | random weights =>
      rw [kind] at known known'
      obtain ⟨picked, rest⟩ := excerpt.pick lookup weights index inside inner outer aligned
      rw [enter_random body lookup index inner weights known, enter_random whole lookup _ outer weights known']
      refine ⟨?_, rest⟩
      simp only [picked]
      cases chosen : (body.pick lookup weights index inner).1 with
      | none => exact past
      | some child =>
          have bound := (mem_children body index child (pick_child body lookup weights index inner child chosen)).2.1
          exact (carried_inside whole host _ _ bound).symm
  | delay millis =>
      rw [kind] at known known'
      rw [enter_delay body lookup index inner millis known, enter_delay whole lookup _ outer millis known']
      exact ⟨past, aligned⟩
  | await => exact returning command.kind known (by rw [kind]; rfl)
  | transition millis => exact returning command.kind known (by rw [kind]; rfl)
  | otherwise =>
      rw [kind] at known known'
      rw [enter_plain body lookup index inner _ known (.inr rfl), enter_plain whole lookup _ outer _ known' (.inr rfl)]
      exact ⟨first, aligned⟩
  | _ =>
      rw [kind] at known known'
      rw [enter_plain body lookup index inner _ known (.inl rfl), enter_plain whole lookup _ outer _ known' (.inl rfl)]
      exact ⟨first, aligned⟩

end Blocks

theorem move : (whole.move lookup (host + 1 + index) outer).1 =
      whole.carried host body.length (body.move lookup index inner).1 ∧
    Aligned host body.length (body.move lookup index inner).2 (whole.move lookup (host + 1 + index) outer).2 := by
  have within := excerpt.within
  have outside : ¬whole.length ≤ host + 1 + index := by omega
  rw [Playlist.move, Playlist.move, if_neg outside, if_neg (Nat.not_le.mpr inside), excerpt.enters index inside]
  by_cases enters : body.enters index = true
  · rw [if_pos enters, if_pos enters]
    exact excerpt.enter accepted plain lookup index inside inner outer aligned enters
  · rw [if_neg enters, if_neg enters, excerpt.indent index inside]
    have alone := run_alone body accepted index inside (Bool.eq_false_iff.mpr enters)
    exact ⟨excerpt.leave accepted plain _ index index alone, aligned⟩

end Entering

end Excerpt

theorem move_others (lookup : String → Option Value) (index : Nat) (trail : Trail) (other : Nat)
    (different : other ≠ index) : (p.move lookup index trail).2.isRaised other = trail.isRaised other := by
  have turned := advance_turns p lookup index true trail
  simp only [advance, Bool.not_true, Bool.and_false, Bool.false_eq_true, if_false] at turned
  rcases turned with ⟨same, _⟩ | ⟨_, _, same⟩
  · rw [Trail.isRaised, same]
    rfl
  · rw [same]
    split
    · simp [Trail.raised_lower, different]
    · simp [Trail.raised_raise, different]

/-! ### The copy -/

-- The block of the host is in place of what the host does with it.
def grouped (p : Playlist) (host : Nat) : Playlist :=
  ⟨p.script, p.commands.modify host fun command => { command with kind := .group }⟩

theorem grouped_command (host index : Nat) (other : index ≠ host) :
    (p.grouped host).command? index = p.command? index := by
  simp [grouped, command?, Array.getElem?_modify, Ne.symm other]

theorem grouped_host (host : Nat) :
    (p.grouped host).command? host = (p.command? host).map fun command => { command with kind := .group } := by
  simp [grouped, command?, Array.getElem?_modify]

theorem grouped_indent (host index : Nat) : (p.grouped host).indentAt index = p.indentAt index := by
  by_cases same : index = host
  · subst same
    rw [indentAt, grouped_host, indentAt, Option.map_map]
    rfl
  · rw [indentAt, indentAt, grouped_command p host index same]

theorem Excerpt.in_group {body p : Playlist} {host : Nat} (excerpt : Excerpt body p host) :
    Excerpt body (p.grouped host) host := by
  obtain ⟨command, found⟩ := p.command_found host (Nat.lt_of_le_of_lt (Nat.le_add_right _ _) excerpt.within)
  refine ⟨?_, ?_, fun index inside => ?_, ?_, fun index inside => ?_⟩
  · simp [isHost, grouped_host, found, Command.isHost, Kind.isHost]
  · have same : (p.grouped host).length = p.length := by simp [grouped, length]
    rw [same]
    exact excerpt.within
  · rw [grouped_indent, grouped_indent]
    exact excerpt.deep index inside
  · rw [grouped_indent, grouped_indent]
    exact excerpt.closed
  · rw [grouped_indent, grouped_command p host _ (by omega)]
    exact excerpt.same index inside

-- A member of a chain cannot have its opener outside the body: the scan comes to the host first, which is shallower.
theorem Excerpt.misplaced {body p : Playlist} {host : Nat} (excerpt : Excerpt body p host) (index : Nat) (command : Command)
    (inside : index < body.length) (deep : p.indentAt host + 1 ≤ command.indent)
    (placed : p.misplaced (host + 1 + index) command = false) :
    body.misplaced index (command.dedent (p.indentAt host + 1)) = false := by
  obtain ⟨before, scanned, earlier, shallow, deeper⟩ :=
    p.shallower_spec command.indent (host + 1 + index) ⟨host, by omega, by omega⟩
  have within := excerpt.within
  obtain ⟨opener, found⟩ := p.command_found before (by omega)
  simp only [Playlist.misplaced, scanned, found] at placed
  have level : opener.indent = command.indent := by
    by_cases same : opener.indent = command.indent
    · exact same
    · simp [same] at placed
  have after : host < before := by
    rcases Nat.lt_trichotomy host before with after | same | early
    · exact after
    · have own := p.indent_of before opener found
      rw [← same] at own
      omega
    · have above := deeper host early (by omega)
      omega
  obtain ⟨offset, rfl⟩ : ∃ offset, before = host + 1 + offset := ⟨before - (host + 1), by omega⟩
  obtain ⟨original, there, _, copied⟩ := excerpt.command offset (by omega)
  obtain rfl : original = opener := Option.some.inj (there.symm.trans found)
  have rescanned : body.shallower? (command.indent - (p.indentAt host + 1)) index = some offset := by
    refine body.shallower_eq _ index offset (by omega) ?_ fun other later bound => ?_
    · rw [body.indent_of offset _ copied, Command.dedent, level]
    · have below := deeper (host + 1 + other) (by omega) (by omega)
      have shifted := excerpt.indent other (by omega)
      omega
  simp only [Playlist.misplaced, Command.dedent, rescanned, copied, level]
  simpa only [level] using placed

theorem Excerpt.accepted {body p : Playlist} {host : Nat} (excerpt : Excerpt body p host) (accepted : p.Accepted) :
    body.Accepted := by
  have past (index : Nat) (outside : ¬index + 1 < body.length) : body.indentAt (index + 1) = 0 :=
    body.indent_past _ (Nat.le_of_not_lt outside)
  refine ⟨?_, fun index => ?_, fun index deeper => ?_, fun index command found requires => ?_,
    fun index command found continues => ?_⟩
  · by_cases first : 0 < body.length
    · have level := excerpt.indent 0 first
      have step := accepted.step host
      rw [Nat.add_zero] at level
      omega
    · exact body.indent_past 0 (Nat.le_of_not_lt first)
  · by_cases inside : index + 1 < body.length
    · have level := excerpt.indent index (Nat.lt_of_succ_lt inside)
      have next := excerpt.indent (index + 1) inside
      have step := accepted.step (host + 1 + index)
      have close : host + 1 + index + 1 = host + 1 + (index + 1) := rfl
      rw [close] at step
      omega
    · rw [past index inside]
      exact Nat.zero_le _
  · have inside := body.indent_bound (index + 1) (Nat.lt_of_le_of_lt (Nat.zero_le _) deeper)
    have level := excerpt.indent index (Nat.lt_of_succ_lt inside)
    have next := excerpt.indent (index + 1) inside
    rw [← excerpt.is_host index (Nat.lt_of_succ_lt inside)]
    refine accepted.host _ ?_
    have close : host + 1 + index + 1 = host + 1 + (index + 1) := rfl
    rw [close]
    omega
  · have inside := body.command_bound index command found
    obtain ⟨original, there, _, copied⟩ := excerpt.command index inside
    obtain rfl : original.dedent (p.indentAt host + 1) = command := Option.some.inj (copied.symm.trans found)
    rw [← excerpt.enters index inside]
    exact accepted.body _ original there requires
  · have inside := body.command_bound index command found
    obtain ⟨original, there, deep, copied⟩ := excerpt.command index inside
    obtain rfl : original.dedent (p.indentAt host + 1) = command := Option.some.inj (copied.symm.trans found)
    exact excerpt.misplaced index original inside deep (accepted.chain _ original there continues)

-- The copy that is made of a host's body.
def bodyOf (p : Playlist) (host : Nat) : Playlist :=
  ⟨p.script, (((p.commands.toList.drop (host + 1)).take (p.bodyEnd host - host)).map fun command =>
    command.dedent (p.indentAt host + 1)).toArray⟩

theorem body_of_length (host : Nat) (inside : p.bodyEnd host < p.length) :
    (p.bodyOf host).length = p.bodyEnd host - host := by
  simp only [bodyOf, length, List.size_toArray, List.length_map, List.length_take, List.length_drop, Array.length_toList]
  rw [length] at inside
  omega

theorem body_of_excerpt (host : Nat) (enters : p.enters host = true) :
    Excerpt (p.bodyOf host) p host := by
  obtain ⟨hosts, deeper⟩ := (p.enters_iff host).mp enters
  have next := p.enters_bound host enters
  obtain ⟨low, bound, between, closed⟩ := p.exit_index_spec (host + 1) (p.indentAt host) next
  have last : p.bodyEnd host = p.exitIndex (host + 1) (p.indentAt host) := if_pos enters
  rw [← last] at low bound between closed
  have size := body_of_length p host bound
  refine ⟨hosts, by omega, fun index inside => ?_, ?_, fun index inside => ?_⟩
  · by_cases first : index = 0
    · subst first
      exact deeper
    · exact between _ (by omega) (by omega)
  · have close : host + 1 + (p.bodyOf host).length = p.bodyEnd host + 1 := by omega
    rw [close]
    exact closed
  · rw [size] at inside
    simp [bodyOf, command?, inside]

theorem extract_body (accepted : p.Accepted) (host : Nat) (enters : p.enters host = true) :
    p.extract host = .ok (p.bodyOf host) :=
  (build_ok_iff _ _ _).mpr ⟨rfl, (body_of_excerpt p host enters).accepted accepted⟩

-- The body of a delay block as a playlist of its own: its commands are those of the block, one level up for each level around
-- it, and its flags are down when it is scheduled, whatever was played before. A step in it leads where it would lead in the
-- block if the block were a group, and from its end to where such a block is left. Failures, draws and flags are the same.
theorem deferred_body_moves_as_in_place (script : String) (commands : List Command) (p : Playlist)
    (built : build script commands = .ok p) (host : Nat) (delay : p.IsDelay host) :
    ∃ body, p.extract host = .ok body ∧ body.length = p.bodyEnd host - host ∧
      (∀ index, index < body.length → ∃ command, p.command? (host + 1 + index) = some command ∧
        p.indentAt host + 1 ≤ command.indent ∧
        body.command? index = some { command with indent := command.indent - (p.indentAt host + 1) }) ∧
      (∀ (start : World) (moves : List World.Move) (millis : UInt64), start.Numbered → start.activities = [] →
        start.player.raised = [] → start.player.playback.loaded = none →
        (∀ loaded ∈ start.player.library.scripts, loaded.handle < start.player.library.nextHandle) →
        let player := (start.after moves).player
        ((player.schedule body millis).trail (player.library.load body).1).raised = []) ∧
      ∀ index, index < body.length → ∀ (lookup : String → Option Value) (inner outer : Trail),
        Aligned host body.length inner outer →
        let detached := body.move lookup index inner
        let inPlace := (p.grouped host).move lookup (host + 1 + index) outer
        (∀ next, detached.1 = .ok next →
          (next < body.length ∧ inPlace.1 = .ok (host + 1 + next)) ∨
            (next = body.length ∧ inPlace.1 = (p.grouped host).skip host (p.indentAt host))) ∧
        (∀ cause, detached.1 = .error cause → inPlace.1 = .error cause) ∧
        Aligned host body.length detached.2 inPlace.2 ∧
        ∀ other, ¬(host < other ∧ other ≤ host + body.length) → inPlace.2.isRaised other = outer.isRaised other := by
  obtain ⟨_, accepted⟩ := (build_ok_iff script commands p).mp built
  obtain ⟨millis, known⟩ := delay
  obtain ⟨command, found, kind⟩ := Option.map_eq_some_iff.mp known
  have enters := accepted.body host command found (by rw [kind]; rfl)
  have excerpt := body_of_excerpt p host enters
  have body_accepted := excerpt.accepted accepted
  have grouped : ∃ kind, (p.grouped host).kind? host = some kind ∧ kind.policy = .plain := by
    refine ⟨.group, ?_, rfl⟩
    rw [kind?, grouped_host, found]
    rfl
  have last : p.bodyEnd host < p.length := by
    have deeper := ((p.enters_iff host).mp enters).2
    have next := p.indent_bound (host + 1) (Nat.lt_of_le_of_lt (Nat.zero_le _) deeper)
    rw [bodyEnd, if_pos enters]
    exact (p.exit_index_spec (host + 1) _ next).2.1
  refine ⟨p.bodyOf host, extract_body p accepted host enters, body_of_length p host last, excerpt.command,
    fun start moves millis numbered nobody unraised nowhere handles => ?_,
    fun index inside lookup inner outer aligned => ?_⟩
  · exact start.clear_after moves numbered nobody unraised nowhere handles (p.bodyOf host)
  · obtain ⟨leads, rest⟩ := excerpt.in_group.move body_accepted grouped lookup index inside inner outer aligned
    refine ⟨fun next same => ?_, fun cause same => ?_, rest, fun other outside => ?_⟩
    · have within : next ≤ (p.bodyOf host).length := by
        refine advance_within (p.bodyOf host) body_accepted lookup index true inner inside next ?_
        rw [advance, Bool.not_true, Bool.and_false, if_neg Bool.false_ne_true]
        exact same
      rw [same, carried, grouped_indent] at leads
      rcases Nat.lt_or_eq_of_le within with inner | ends
      · exact .inl ⟨inner, leads.trans (if_pos inner)⟩
      · exact .inr ⟨ends, leads.trans (if_neg (Nat.not_lt.mpr (Nat.le_of_eq ends.symm)))⟩
    · rw [same] at leads
      exact leads
    · exact move_others _ lookup _ outer other (by omega)

-- A delay with a block that is left twice, a loop and a choice in its body.
def detachedStory : List Command :=
  [⟨0, {}, none, true, .group⟩, ⟨1, {}, none, true, .delay 5⟩, ⟨2, {}, none, true, .await⟩,
    ⟨3, {}, none, true, .loop (.var "more")⟩, ⟨4, {}, none, true, .waitInput⟩, ⟨2, {}, none, true, .random []⟩,
    ⟨3, {}, none, true, .waitInput⟩, ⟨0, {}, none, true, .stop⟩]

-- Scheduled while a flag is up; a step at the loop, and one at the last command.
theorem detached_story_moves_as_in_place :
    let p : Playlist := ⟨"story", detachedStory.toArray⟩
    build "story" detachedStory = .ok p ∧ p.IsDelay 1 ∧ ∃ body, p.extract 1 = .ok body ∧ body.length = 5 ∧
      (World.escaping.after World.escape).player.raised = [(0, 1)] ∧
      (((World.escaping.after World.escape).player.schedule body 5).trail
        ((World.escaping.after World.escape).player.library.load body).1).raised = [] ∧
      ∀ (lookup : String → Option Value) (inner outer : Trail), Aligned 1 5 inner outer →
        (∀ next, (body.move lookup 1 inner).1 = .ok next → next < 5 →
          ((p.grouped 1).move lookup 3 outer).1 = .ok (2 + next)) ∧
        (∀ next, (body.move lookup 4 inner).1 = .ok next → next = 5 →
          ((p.grouped 1).move lookup 6 outer).1 = .ok 7) := by
  intro p
  obtain ⟨body, extracted, size, _, clear, moves⟩ :=
    deferred_body_moves_as_in_place "story" detachedStory p rfl 1 ⟨5, rfl⟩
  have five : body.length = 5 := size
  refine ⟨rfl, ⟨5, rfl⟩, body, extracted, five, by decide +kernel, ?_, fun lookup inner outer aligned => ⟨?_, ?_⟩⟩
  · exact clear World.escaping World.escape 5 (World.numbered_new _ rfl) rfl rfl rfl (by decide)
  · intro next leads inside
    rcases (moves 1 (by omega) lookup inner outer (five ▸ aligned)).1 next leads with ⟨_, there⟩ | ⟨past, _⟩
    · exact there
    · omega
  · intro next leads past
    rcases (moves 4 (by omega) lookup inner outer (five ▸ aligned)).1 next leads with ⟨within, _⟩ | ⟨_, there⟩
    · omega
    · exact there

end Playlist

end Storyline
