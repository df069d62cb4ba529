import Storyline.Navigation
import Storyline.Proofs.Layout

set_option autoImplicit false

/-!
Leaving blocks. What a host does when a command of its block has been played depends on its kind in five ways. In an
accepted playlist every command has the hosts that its indentation asks for, so the only way for navigation to fail is to
come out of a delay block, and from outside such blocks it never gets into one.
-/

namespace Storyline

inductive Policy where
  -- leaves the whole block, wherever it is asked
  | whole
  -- must not be asked
  | refused
  -- goes on in the block, and from its end past all other members of the chain
  | chained
  -- goes on in the block, and from its end back to the host
  | repeated
  -- goes on in the block and past its end
  | plain

def Kind.policy : Kind → Policy
  | .random _ => .whole
  | .delay _ => .refused
  | .branch _ | .elseBranch _ | .otherwise => .chained
  | .loop _ | .await | .transition _ => .repeated
  | _ => .plain

namespace Playlist

variable (p : Playlist)

def leaveBy (p : Playlist) (host indent played : Nat) : Policy → Except StructuralError Nat
  | .whole => p.leave indent (p.exitIndex host indent)
  | .refused => .error (.deferredNavigation (p.spotAt played))
  | .chained => if p.exits played indent then p.leave indent (p.chainEnd host) else .ok (played + 1)
  | .repeated => if p.exits played indent then .ok host else .ok (played + 1)
  | .plain => if p.exits played indent then p.leave indent played else .ok (played + 1)

theorem leave_succ (indent played host : Nat) (kind : Kind) (hosted : p.hostAt played indent = .ok host)
    (known : p.kind? host = some kind) : p.leave (indent + 1) played = p.leaveBy host indent played kind.policy := by
  cases kind <;> simp only [leave, hosted, known, Kind.policy, leaveBy]

-- The host's block holds the command.
def Encloses (p : Playlist) (host index : Nat) : Prop :=
  host < index ∧ ∀ other, host < other → other ≤ index → p.indentAt host < p.indentAt other

def IsDelay (p : Playlist) (index : Nat) : Prop := ∃ millis, p.kind? index = some (.delay millis)

def Deferred (p : Playlist) (index : Nat) : Prop := ∃ host, p.IsDelay host ∧ p.Encloses host index

-- An index that navigation may lead to: a command outside delay blocks, or the end.
def Open (p : Playlist) (index : Nat) : Prop := index ≤ p.length ∧ (index < p.length → ¬p.Deferred index)

-- A run of commands that starts at `first` and is nowhere shallower than `depth`, up to a place where that level is over.
structure Run (p : Playlist) (depth first last : Nat) : Prop where
  low : first ≤ last
  inside : last < p.length
  deep : ∀ index, first ≤ index → index ≤ last → depth ≤ p.indentAt index
  closed : p.indentAt (last + 1) ≤ depth

theorem run_exit (index : Nat) (inside : index < p.length) :
    p.Run (p.indentAt index) index (p.exitIndex index (p.indentAt index)) := by
  obtain ⟨low, bound, deeper, closed⟩ := p.exit_index_spec index (p.indentAt index) inside
  refine ⟨low, bound, fun other from_ upto => ?_, closed⟩
  by_cases same : other = index
  · exact Nat.le_of_eq (by rw [same])
  · exact Nat.le_of_lt (deeper other (by omega) upto)

theorem run_chain (depth first last members : Nat) (run : p.Run depth first last) :
    p.Run depth first (p.chainEndFrom depth members last) := by
  induction members generalizing last with
  | zero => exact run
  | succ members ih =>
      have low := run.low
      unfold chainEndFrom
      cases found : p.command? (last + 1) with
      | none => exact run
      | some next =>
          by_cases joins : (decide (next.indent = depth) && next.kind.continues) = true
          · have level : p.indentAt (last + 1) = depth := by
              rw [p.indent_of (last + 1) next found]
              exact (by simpa using joins : next.indent = depth ∧ next.kind.continues = true).1
            have member := run_exit p (last + 1) (p.command_bound (last + 1) next found)
            rw [level] at member
            have low' := member.low
            have longer : p.Run depth first (p.exitIndex (last + 1) depth) := by
              refine ⟨by omega, member.inside, fun index from_ upto => ?_, member.closed⟩
              by_cases before : index ≤ last
              · exact run.deep index from_ before
              · exact member.deep index (by omega) upto
            simp only [joins, if_true]
            split
            · exact longer
            · exact ih _ longer
          · simp only [if_neg joins]
            exact run

theorem run_chain_end (index : Nat) (inside : index < p.length) :
    p.Run (p.indentAt index) index (p.chainEnd index) :=
  run_chain p _ index _ _ (run_exit p index inside)

theorem encloses_first (depth first last host : Nat) (run : p.Run depth first last)
    (encloses : p.Encloses host last) (shallow : p.indentAt host < depth) : p.Encloses host first := by
  have before : host < first := by
    by_cases within : first ≤ host
    · have deep := run.deep host within (Nat.le_of_lt encloses.1)
      omega
    · omega
  have low := run.low
  exact ⟨before, fun other after upto => encloses.2 other after (by omega)⟩

theorem encloses_trans (outer host index : Nat) (around : p.Encloses outer host)
    (encloses : p.Encloses host index) : p.Encloses outer index := by
  have level := around.2 host around.1 (Nat.le_refl _)
  refine ⟨Nat.lt_trans around.1 encloses.1, fun other after upto => ?_⟩
  by_cases above : other ≤ host
  · exact around.2 other after above
  · exact Nat.lt_trans level (encloses.2 other (by omega) upto)

theorem encloses_between (outer index between : Nat) (encloses : p.Encloses outer index)
    (after : outer < between) (upto : between ≤ index) : p.Encloses outer between :=
  ⟨after, fun other above below => encloses.2 other above (by omega)⟩

theorem host_found (accepted : p.Accepted) (index depth : Nat) (inside : index < p.length)
    (nested : depth < p.indentAt index) :
    ∃ host, p.hostAt index depth = .ok host ∧ p.isHost host = true ∧ p.indentAt host = depth ∧
      p.Encloses host index := by
  have later : 0 < index := by
    by_cases first : index = 0
    · rw [first, accepted.first] at nested
      omega
    · omega
  obtain ⟨host, _, below, low, deeper⟩ := p.shallower_spec depth index ⟨0, later, by rw [accepted.first]; omega⟩
  have next : depth < p.indentAt (host + 1) := by
    by_cases here : host + 1 = index
    · rwa [here]
    · exact deeper (host + 1) (by omega) (by omega)
  have level : p.indentAt host = depth := by
    have step := accepted.step host
    omega
  have hosts := accepted.host host (by omega)
  have scanned := p.host_at_eq index host (Nat.le_of_lt inside) below hosts (fun other => by rw [level]; exact deeper other)
  rw [level] at scanned
  refine ⟨host, scanned, hosts, level, below, fun other after upto => ?_⟩
  rw [level]
  by_cases here : other = index
  · rwa [here]
  · exact deeper other after (by omega)

theorem host_of_nested (accepted : p.Accepted) (index : Nat) (nested : 0 < p.indentAt index) :
    ∃ host, p.hostOf index = .ok host ∧ p.isHost host = true ∧ p.indentAt index = p.indentAt host + 1 ∧
      p.Encloses host index := by
  obtain ⟨depth, level⟩ := Nat.exists_eq_add_one.mpr nested
  obtain ⟨host, found, hosts, below, encloses⟩ := host_found p accepted index depth (p.indent_bound index nested) (by omega)
  exact ⟨host, by rw [hostOf, level]; exact found, hosts, by omega, encloses⟩

/-! ### Where leaving leads -/

theorem Run.outward {p : Playlist} {depth first last : Nat} (run : p.Run (depth + 1) first last)
    (closed : p.indentAt (last + 1) ≤ depth) : p.Run depth first last :=
  ⟨run.low, run.inside, fun index low high => Nat.le_of_succ_le (run.deep index low high), closed⟩

theorem run_alone (accepted : p.Accepted) (index : Nat) (inside : index < p.length)
    (single : p.enters index = false) : p.Run (p.indentAt index) index index := by
  refine ⟨Nat.le_refl _, inside, fun other low high => Nat.le_of_eq (by rw [Nat.le_antisymm high low]), Nat.le_of_not_lt ?_⟩
  intro deeper
  exact Bool.eq_false_iff.mp single ((p.enters_iff index).mpr ⟨accepted.host index deeper, deeper⟩)

-- What a block is left for from one of its commands: the next one, the host again, nothing, or the level around, from the end
-- of the host's block or chain or from the command itself.
inductive Leaves (p : Playlist) (depth last host : Nat) (kind : Kind) : Except StructuralError Nat → Prop where
  | onward (deeper : depth < p.indentAt (last + 1)) : Leaves p depth last host kind (.ok (last + 1))
  | again (repeated : kind.policy = .repeated) : Leaves p depth last host kind (.ok host)
  | refused (delays : p.IsDelay host) : Leaves p depth last host kind (.error (.deferredNavigation (p.spotAt last)))
  | past (once : kind.policy ≠ .repeated) (final : Nat) (block : p.Run depth host final) :
      Leaves p depth last host kind (p.leave depth final)
  | outward (once : kind.policy ≠ .repeated) (closed : p.indentAt (last + 1) ≤ depth) :
      Leaves p depth last host kind (p.leave depth last)

theorem leave_cases (accepted : p.Accepted) (depth last : Nat) (inside : last < p.length)
    (deep : depth < p.indentAt last) :
    ∃ host kind, p.kind? host = some kind ∧ p.indentAt host = depth ∧ p.Encloses host last ∧
      p.Leaves depth last host kind (p.leave (depth + 1) last) := by
  obtain ⟨host, hosted, hosts, level, encloses⟩ := host_found p accepted last depth inside deep
  have bound := p.host_bound host hosts
  obtain ⟨command, found⟩ := p.command_found host bound
  have known := p.kind_of host command found
  refine ⟨host, command.kind, known, level, encloses, ?_⟩
  rw [leave_succ p depth last host command.kind hosted known]
  have exits := p.exits_nested last depth (Nat.lt_of_le_of_lt (Nat.zero_le _) deep)
  have onward (stays : ¬p.exits last depth = true) : p.Leaves depth last host command.kind (.ok (last + 1)) := by
    rw [exits, decide_eq_true_eq] at stays
    exact .onward (Nat.lt_of_not_le stays)
  cases policy : command.kind.policy <;> rw [leaveBy]
  case whole => exact .past (by simp [policy]) _ (level ▸ run_exit p host bound)
  case refused =>
    refine .refused ?_
    rw [IsDelay, known]
    cases kind : command.kind <;> simp_all [Kind.policy]
  case chained =>
    split
    · exact .past (by simp [policy]) _ (level ▸ run_chain_end p host bound)
    · next stays => exact onward stays
  case repeated =>
    split
    · exact .again policy
    · next stays => exact onward stays
  case plain =>
    split
    · next leaving => exact .outward (by simp [policy]) (of_decide_eq_true (exits ▸ leaving))
    · next stays => exact onward stays

-- Past `last`, into no block that is not around `first`.
structure Forward (p : Playlist) (first last next : Nat) : Prop where
  further : last < next
  within : next ≤ p.length
  around : ∀ host, p.Encloses host next → p.Encloses host first

-- Back to a host around `first`.
def Back (p : Playlist) (first next : Nat) : Prop :=
  p.Encloses next first ∧ ∃ kind, p.kind? next = some kind ∧ kind.policy = .repeated

def Heads (p : Playlist) (first last : Nat) (result : Except StructuralError Nat) : Prop :=
  ∀ next, result = .ok next → p.Forward first last next ∨ p.Back first next

theorem Heads.around {p : Playlist} {first last next : Nat} {result : Except StructuralError Nat}
    (heads : p.Heads first last result) (leads : result = .ok next) (host : Nat) (encloses : p.Encloses host next) :
    p.Encloses host first := by
  rcases heads next leads with forward | ⟨back, _⟩
  · exact forward.around host encloses
  · exact encloses_trans p host next first encloses back

theorem forward_next (depth first last : Nat) (run : p.Run depth first last) :
    p.Forward first last (last + 1) := by
  refine ⟨Nat.lt_succ_self last, run.inside, fun host encloses => ?_⟩
  have shallow := Nat.lt_of_lt_of_le (encloses.2 (last + 1) encloses.1 (Nat.le_refl _)) run.closed
  have low := run.low
  have before : host < first := by
    refine Nat.lt_of_not_le fun within => ?_
    have deep := run.deep host within (Nat.le_of_lt_succ encloses.1)
    exact absurd shallow (Nat.not_lt.mpr deep)
  exact encloses_between p host (last + 1) first encloses before (Nat.le_succ_of_le low)

-- The induction is on the level that is left: every host hands over to the one around it.
theorem leave_heads (accepted : p.Accepted) (depth first last : Nat) (run : p.Run depth first last) :
    p.Heads first last (p.leave depth last) := by
  have onward : p.Heads first last (.ok (last + 1)) := by
    intro next same
    obtain rfl : last + 1 = next := Except.ok.inj same
    exact .inl (forward_next p depth first last run)
  induction depth generalizing first last with
  | zero => exact onward
  | succ depth ih =>
      obtain ⟨host, kind, known, level, around, leaves⟩ :=
        leave_cases p accepted depth last run.inside (run.deep last run.low (Nat.le_refl _))
      have encloses := encloses_first p _ first last host run around (by omega)
      generalize p.leave (depth + 1) last = result at leaves ⊢
      cases leaves with
      | onward => exact onward
      | again repeated =>
          intro next same
          obtain rfl : host = next := Except.ok.inj same
          exact .inr ⟨encloses, kind, known, repeated⟩
      | refused =>
          intro next leads
          cases leads
      | past _ final block =>
          have reached : last ≤ final := by
            refine Nat.le_of_not_lt fun early => ?_
            have deeper := around.2 (final + 1) (Nat.lt_succ_of_le block.low) early
            have closed := block.closed
            omega
          intro next leads
          have inner := ih host final block fun next same =>
            .inl (Except.ok.inj same ▸ forward_next p depth host final block)
          rcases inner next leads with ⟨after, within, inner⟩ | ⟨outer, repeats⟩
          · exact .inl ⟨Nat.lt_of_le_of_lt reached after, within, fun other held =>
              encloses_trans p other host first (inner other held) encloses⟩
          · exact .inr ⟨encloses_trans p next host first outer encloses, repeats⟩
      | outward _ closed => exact ih first last (run.outward closed) onward

theorem leave_fails (accepted : p.Accepted) (depth first last : Nat) (run : p.Run depth first last)
    (cause : StructuralError) (fails : p.leave depth last = .error cause) :
    (∃ spot, cause = .deferredNavigation spot) ∧ p.Deferred first := by
  induction depth generalizing first last with
  | zero => cases fails
  | succ depth ih =>
      obtain ⟨host, kind, _, level, around, leaves⟩ :=
        leave_cases p accepted depth last run.inside (run.deep last run.low (Nat.le_refl _))
      have encloses := encloses_first p _ first last host run around (by omega)
      generalize p.leave (depth + 1) last = result at leaves fails
      cases leaves with
      | onward | again => cases fails
      | refused delays => exact ⟨⟨_, (Except.error.inj fails).symm⟩, host, delays, encloses⟩
      | past _ final block =>
          obtain ⟨named, outer, delays, held⟩ := ih host final block fails
          exact ⟨named, outer, delays, encloses_trans p outer host first held encloses⟩
      | outward _ closed => exact ih first last (run.outward closed) fails

def FailsDeferred (result : Except StructuralError Nat) : Prop :=
  ∀ cause, result = .error cause → ∃ spot, cause = .deferredNavigation spot

def LeadsOpen (p : Playlist) (result : Except StructuralError Nat) : Prop := ∃ next, result = .ok next ∧ p.Open next

theorem fails_ok (next : Nat) : FailsDeferred (.ok next) := by
  intro cause same
  cases same

theorem leave_safe (accepted : p.Accepted) (depth first last : Nat) (run : p.Run depth first last) :
    FailsDeferred (p.leave depth last) ∧ (¬p.Deferred first → p.LeadsOpen (p.leave depth last)) := by
  have fails := leave_fails p accepted depth first last run
  refine ⟨fun cause failed => (fails cause failed).1, fun free => ?_⟩
  cases leads : p.leave depth last with
  | error cause => exact absurd (fails cause leads).2 free
  | ok next =>
      have heads := leave_heads p accepted depth first last run
      refine ⟨next, rfl, ?_, fun _ ⟨host, delay, encloses⟩ => free ⟨host, delay, heads.around leads host encloses⟩⟩
      rcases heads next leads with forward | ⟨back, _⟩
      · exact forward.within
      · exact Nat.le_of_lt (Nat.lt_trans back.1 (Nat.lt_of_le_of_lt run.low run.inside))

section Steps

variable (p : Playlist) (accepted : p.Accepted) (index : Nat) (inside : index < p.length)

theorem next_member_cases : p.nextMember index = p.skip index (p.indentAt index) ∨
    p.nextMember index = .ok (p.exitIndex index (p.indentAt index) + 1) ∧
      p.indentAt (p.exitIndex index (p.indentAt index) + 1) = p.indentAt index := by
  simp only [nextMember, skip]
  cases found : p.command? (p.exitIndex index (p.indentAt index) + 1) with
  | none => exact .inl rfl
  | some next =>
      by_cases joins : (decide (next.indent = p.indentAt index) && next.kind.continues) = true
      · refine .inr ⟨if_pos joins, (p.indent_of _ next found).trans ?_⟩
        exact (by simpa using joins : next.indent = p.indentAt index ∧ next.kind.continues = true).1
      · exact .inl (if_neg joins)

include accepted inside

theorem skip_safe : FailsDeferred (p.skip index (p.indentAt index)) ∧
    (¬p.Deferred index → p.LeadsOpen (p.skip index (p.indentAt index))) :=
  leave_safe p accepted _ index _ (run_exit p index inside)

theorem next_member_safe :
    FailsDeferred (p.nextMember index) ∧ (¬p.Deferred index → p.LeadsOpen (p.nextMember index)) := by
  rcases p.next_member_cases index with past | ⟨member, _⟩
  · rw [past]
    exact skip_safe p accepted index inside
  · rw [member]
    have forward := forward_next p _ index _ (run_exit p index inside)
    exact ⟨fails_ok _, fun free => ⟨_, rfl, forward.within, fun _ ⟨host, delay, encloses⟩ =>
      free ⟨host, delay, forward.around host encloses⟩⟩⟩

theorem skip_heads : p.Heads index (p.exitIndex index (p.indentAt index)) (p.skip index (p.indentAt index)) :=
  leave_heads p accepted _ index _ (run_exit p index inside)

theorem next_member_heads : p.Heads index (p.exitIndex index (p.indentAt index)) (p.nextMember index) := by
  rcases p.next_member_cases index with past | ⟨member, _⟩
  · rw [past]
    exact skip_heads p accepted index inside
  · intro next same
    obtain rfl := Except.ok.inj (member.symm.trans same)
    exact .inl (forward_next p _ index _ (run_exit p index inside))

end Steps

/-! ### Entering -/

theorem consider_best (lookup : String → Option Value) (weights : List Float32) (state : Pick × Trail)
    (child : Nat × Nat) (best : Nat) (chosen : (p.consider lookup weights state child).1.best = some best) :
    state.1.best = some best ∨ best = child.1 := by
  unfold consider at chosen
  split at chosen
  · exact .inl chosen
  · split at chosen
    · exact .inl chosen
    · simp only at chosen
      split at chosen
      · exact .inr (Option.some.inj chosen).symm
      · exact .inl chosen

theorem pick_child (lookup : String → Option Value) (weights : List Float32) (host : Nat) (trail : Trail)
    (child : Nat) (picked : (p.pick lookup weights host trail).1 = some child) : child ∈ p.children host := by
  have fold (offers : List (Nat × Nat)) (state : Pick × Trail)
      (chosen : (offers.foldl (p.consider lookup weights) state).1.best = some child) :
      state.1.best = some child ∨ ∃ position, (child, position) ∈ offers := by
    induction offers generalizing state with
    | nil => exact .inl chosen
    | cons offer offers ih =>
        rcases ih _ chosen with held | ⟨position, later⟩
        · rcases consider_best p lookup weights state offer child held with before | same
          · exact .inl before
          · exact .inr ⟨offer.2, by simp [same]⟩
        · exact .inr ⟨position, List.mem_cons_of_mem offer later⟩
  rcases fold _ _ picked with nobody | ⟨position, member⟩
  · cases nobody
  · exact List.fst_mem_of_mem_zipIdx member

theorem mem_children (host child : Nat) (member : child ∈ p.children host) :
    host < child ∧ child < p.length ∧ p.indentAt child = p.indentAt host + 1 ∧
      ∀ index, host < index → index ≤ child → p.indentAt host < p.indentAt index := by
  simp only [children, List.mem_filter, List.mem_range'_1, decide_eq_true_eq] at member
  obtain ⟨range, level⟩ := member
  by_cases enters : p.enters host = true
  · have deeper := ((p.enters_iff host).mp enters).2
    have inside := p.enters_bound host enters
    obtain ⟨low, bound, between, _⟩ := p.exit_index_spec (host + 1) (p.indentAt host) inside
    simp only [bodyEnd, enters, if_true] at range
    refine ⟨by omega, by omega, level, fun index after upto => ?_⟩
    by_cases first : index = host + 1
    · rwa [first]
    · exact between index (by omega) (by omega)
  · simp only [bodyEnd, if_neg enters] at range
    omega

theorem open_child (host child : Nat) (free : ¬p.Deferred host) (harmless : ¬p.IsDelay host)
    (after : host < child) (inside : child < p.length) (level : p.indentAt child = p.indentAt host + 1)
    (deeper : ∀ index, host < index → index ≤ child → p.indentAt host < p.indentAt index) : p.Open child := by
  refine ⟨Nat.le_of_lt inside, fun _ deferred => ?_⟩
  obtain ⟨outer, delay, encloses⟩ := deferred
  have shallow := encloses.2 child encloses.1 (Nat.le_refl _)
  rcases Nat.lt_trichotomy outer host with before | same | within
  · exact free ⟨outer, delay, encloses_between p outer child host encloses before (Nat.le_of_lt after)⟩
  · exact harmless (same ▸ delay)
  · have deep := deeper outer within (Nat.le_of_lt encloses.1)
    omega

section Enter

variable (p : Playlist) (lookup : String → Option Value) (host : Nat) (trail : Trail)

theorem enter_branch (condition : Expr)
    (known : p.kind? host = some (.branch condition) ∨ p.kind? host = some (.elseBranch condition)) :
    p.enter lookup host trail =
      (if (trail.condition lookup condition).1 then .ok (host + 1) else p.nextMember host,
        (trail.condition lookup condition).2) := by
  rcases known with known | known <;> simp only [enter, known] <;> split <;> rename_i tested <;> simp [tested]

theorem enter_loop (condition : Expr) (known : p.kind? host = some (.loop condition)) :
    p.enter lookup host trail =
      (if (trail.condition lookup condition).1 then .ok (host + 1) else p.skip host (p.indentAt host),
        (trail.condition lookup condition).2) := by
  simp only [enter, known]
  split <;> rename_i tested <;> simp [tested]

theorem enter_random (weights : List Float32) (known : p.kind? host = some (.random weights)) :
    p.enter lookup host trail =
      ((p.pick lookup weights host trail).1.elim (p.skip host (p.indentAt host)) .ok,
        (p.pick lookup weights host trail).2) := by
  simp only [enter, known]
  split <;> rename_i picked <;> simp [picked]

theorem enter_delay (millis : UInt64) (known : p.kind? host = some (.delay millis)) :
    p.enter lookup host trail = (p.skip host (p.indentAt host), trail) := by
  simp only [enter, known]

theorem enter_returning (kind : Kind) (known : p.kind? host = some kind) (returns : kind.returns = true) :
    p.enter lookup host trail =
      if trail.isRaised host then (p.skip host (p.indentAt host), trail.lower host)
      else (.ok (host + 1), trail.raise host) := by
  cases kind <;> simp_all [Kind.returns, enter]

theorem enter_plain (kind : Kind) (known : p.kind? host = some kind) (plain : kind.policy = .plain ∨ kind = .otherwise) :
    p.enter lookup host trail = (.ok (host + 1), trail) := by
  cases kind <;> simp_all [Kind.policy, enter]

theorem enter_cases (kind : Kind) (known : p.kind? host = some kind) :
    (p.enter lookup host trail).1 = p.nextMember host ∨
      (p.enter lookup host trail).1 = p.skip host (p.indentAt host) ∨
      (¬p.IsDelay host ∧ (p.enter lookup host trail).1 = .ok (host + 1)) ∨
      (¬p.IsDelay host ∧ ∃ child ∈ p.children host, (p.enter lookup host trail).1 = .ok child) := by
  unfold IsDelay
  cases kind with
  | branch condition =>
      rw [enter_branch p lookup host trail condition (.inl known)]
      by_cases holds : (trail.condition lookup condition).1 = true <;> simp [known, holds]
  | elseBranch condition =>
      rw [enter_branch p lookup host trail condition (.inr known)]
      by_cases holds : (trail.condition lookup condition).1 = true <;> simp [known, holds]
  | loop condition =>
      rw [enter_loop p lookup host trail condition known]
      by_cases holds : (trail.condition lookup condition).1 = true <;> simp [known, holds]
  | random weights =>
      rw [enter_random p lookup host trail weights known]
      cases picked : (p.pick lookup weights host trail).1 with
      | none => simp
      | some child =>
          exact .inr (.inr (.inr ⟨by simp [known], child, pick_child p lookup weights host trail child picked, rfl⟩))
  | delay millis => simp [enter_delay p lookup host trail millis known]
  | await =>
      rw [enter_returning p lookup host trail _ known rfl]
      by_cases raised : trail.isRaised host = true <;> simp [known, raised]
  | transition millis =>
      rw [enter_returning p lookup host trail _ known rfl]
      by_cases raised : trail.isRaised host = true <;> simp [known, raised]
  | otherwise => simp [enter_plain p lookup host trail _ known (.inr rfl), known]
  | _ => simp [enter_plain p lookup host trail _ known (.inl rfl), known]

end Enter

theorem enter_safe (accepted : p.Accepted) (lookup : String → Option Value) (host : Nat) (trail : Trail)
    (enters : p.enters host = true) :
    FailsDeferred (p.enter lookup host trail).1 ∧
      (¬p.Deferred host → p.LeadsOpen (p.enter lookup host trail).1) := by
  obtain ⟨hosts, deeper⟩ := (p.enters_iff host).mp enters
  have inside := p.host_bound host hosts
  obtain ⟨command, found⟩ := p.command_found host inside
  rcases enter_cases p lookup host trail command.kind (p.kind_of host command found) with
    member | past | ⟨harmless, first⟩ | ⟨harmless, child, listed, picked⟩
  · rw [member]
    exact next_member_safe p accepted host inside
  · rw [past]
    exact skip_safe p accepted host inside
  · rw [first]
    refine ⟨fails_ok _, fun free => ⟨host + 1, rfl, ?_⟩⟩
    have step := accepted.step host
    exact open_child p host (host + 1) free harmless (by omega) (p.indent_bound _ (by omega)) (by omega)
      fun index after upto => by
        obtain rfl : index = host + 1 := by omega
        exact deeper
  · rw [picked]
    obtain ⟨after, bound, level, between⟩ := mem_children p host child listed
    exact ⟨fails_ok _, fun free => ⟨child, rfl, open_child p host child free harmless after bound level between⟩⟩

theorem move_safe (accepted : p.Accepted) (lookup : String → Option Value) (index : Nat) (trail : Trail)
    (inside : index < p.length) :
    FailsDeferred (p.move lookup index trail).1 ∧
      (¬p.Deferred index → p.LeadsOpen (p.move lookup index trail).1) := by
  rw [move, if_neg (by omega)]
  by_cases enters : p.enters index = true
  · rw [if_pos enters]
    exact enter_safe p accepted lookup index trail enters
  · rw [if_neg enters]
    exact leave_safe p accepted _ index index (run_alone p accepted index inside (Bool.eq_false_iff.mpr enters))

theorem navigation_stays_open (script : String) (commands : List Command) (p : Playlist)
    (built : build script commands = .ok p) (index : Nat) (inside : index < p.length) (lookup : String → Option Value)
    (trail : Trail) :
    (¬p.Deferred index →
      (∃ next, (p.move lookup index trail).1 = .ok next ∧ next ≤ p.length ∧ (next < p.length → ¬p.Deferred next)) ∧
      (∃ next, p.skip index (p.indentAt index) = .ok next ∧ next ≤ p.length ∧ (next < p.length → ¬p.Deferred next))) ∧
    (∀ cause, (p.move lookup index trail).1 = .error cause → ∃ spot, cause = .deferredNavigation spot) ∧
    (∀ spot, (p.move lookup index trail).1 ≠ .error (.hostNotFound spot) ∧
      p.skip index (p.indentAt index) ≠ .error (.hostNotFound spot)) := by
  obtain ⟨rfl, accepted⟩ := (build_ok_iff script commands p).mp built
  obtain ⟨moveFails, moveOpen⟩ := move_safe _ accepted lookup index trail inside
  obtain ⟨skipFails, skipOpen⟩ := skip_safe _ accepted index inside
  refine ⟨fun free => ⟨moveOpen free, skipOpen free⟩, moveFails, fun spot => ⟨fun failed => ?_, fun failed => ?_⟩⟩
  · obtain ⟨_, other⟩ := moveFails _ failed
    cases other
  · obtain ⟨_, other⟩ := skipFails _ failed
    cases other

-- A random block in a loop, whose end leads past the whole block to a delay block.
def drawnStory : List Command :=
  [⟨0, {}, none, true, .loop (.var "awake")⟩, ⟨1, {}, none, true, .random []⟩, ⟨2, {}, none, true, .group⟩,
    ⟨3, {}, none, true, .waitInput⟩, ⟨2, {}, none, true, .stop⟩, ⟨1, {}, none, true, .delay 5⟩,
    ⟨2, {}, none, true, .waitInput⟩, ⟨0, {}, none, true, .stop⟩]

theorem drawn_command_open : ¬Deferred ⟨"story", drawnStory.toArray⟩ 3 := by
  rintro ⟨host, ⟨millis, delay⟩, before, _⟩
  match host, before with
  | 0, _ | 1, _ | 2, _ => cases delay

theorem navigation_stays_open_drawn :
    build "story" drawnStory = .ok ⟨"story", drawnStory.toArray⟩ ∧ 3 < length ⟨"story", drawnStory.toArray⟩ ∧
      ∀ (lookup : String → Option Value) (trail : Trail),
        ∃ next, (move ⟨"story", drawnStory.toArray⟩ lookup 3 trail).1 = .ok next ∧
          next ≤ length ⟨"story", drawnStory.toArray⟩ ∧
            (next < length ⟨"story", drawnStory.toArray⟩ → ¬Deferred ⟨"story", drawnStory.toArray⟩ next) :=
  ⟨rfl, by decide, fun lookup trail =>
    ((navigation_stays_open "story" drawnStory _ rfl 3 (by decide) lookup trail).1 drawn_command_open).1⟩

end Playlist

end Storyline
