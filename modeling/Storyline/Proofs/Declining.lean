import Storyline.Proofs.Walk

set_option autoImplicit false

/-!
Members of a chain whose guard fails. They are passed over as a whole, which is not how a false condition is answered: there the
chain looks for its next member by itself, here the host around it takes the end of the block for a sibling that was played.
Both come to the same place under every host that plays its block in order.
-/

namespace Storyline

namespace Playlist

-- The next command at the level of the member, with nothing but its body in between.
structure Sibling (p : Playlist) (member next : Nat) : Prop where
  after : member < next
  inside : next < p.length
  level : p.indentAt next = p.indentAt member
  deeper : ∀ between, member < between → between < next → p.indentAt member < p.indentAt between

theorem Sibling.exit_index {p : Playlist} {member next : Nat} (sibling : p.Sibling member next) :
    p.exitIndex member (p.indentAt member) + 1 = next := by
  obtain ⟨after, inside, level, deeper⟩ := sibling
  have back : next - 1 + 1 = next := by omega
  rw [p.exit_index_eq member (next - 1) _ (by omega) (by omega) (fun between above upto => deeper between above (by omega))
    (by rw [back, level]), back]

theorem sibling_at_exit (p : Playlist) (member : Nat) (inside : member < p.length)
    (bound : p.exitIndex member (p.indentAt member) + 1 < p.length)
    (level : p.indentAt (p.exitIndex member (p.indentAt member) + 1) = p.indentAt member) :
    p.Sibling member (p.exitIndex member (p.indentAt member) + 1) := by
  obtain ⟨low, _, deeper, _⟩ := p.exit_index_spec member (p.indentAt member) inside
  exact ⟨by omega, bound, level, fun between after before => deeper between after (by omega)⟩

def InOrder (p : Playlist) (index : Nat) : Prop :=
  ∀ host, p.hostOf index = .ok host → ¬p.IsDelay host ∧ ∀ weights, p.kind? host ≠ some (.random weights)

theorem leave_onward (p : Playlist) (accepted : p.Accepted) (member last : Nat) (ordered : p.InOrder member)
    (run : p.Run (p.indentAt member) member last) (next : p.indentAt (last + 1) = p.indentAt member) :
    p.leave (p.indentAt member) last = .ok (last + 1) := by
  cases level : p.indentAt member with
  | zero => rfl
  | succ depth =>
      rw [level] at run next
      have low := run.low
      have bound := run.inside
      have deep := run.deep last low (Nat.le_refl _)
      obtain ⟨host, hosted, hosts, shallow, encloses⟩ := host_found p accepted last depth bound (by omega)
      have around := encloses_first p (depth + 1) member last host run encloses (by omega)
      have own : p.hostOf member = .ok host := by
        have scanned := p.host_at_eq member host (by omega) around.1 hosts
          fun other after before => around.2 other after (Nat.le_of_lt before)
        rw [shallow] at scanned
        simp only [hostOf, level, scanned]
      obtain ⟨command, found⟩ := p.command_found host (p.host_bound host hosts)
      have known := p.kind_of host command found
      obtain ⟨timely, whole⟩ := ordered host own
      have stays : p.exits last depth = false := by
        rw [p.exits_nested last depth (by omega), next]
        exact decide_eq_false (by omega)
      rw [leave_succ p depth last host command.kind hosted known]
      cases kind : command.kind with
      | random weights => exact absurd (kind ▸ known) (whole weights)
      | delay millis => exact absurd ⟨millis, kind ▸ known⟩ timely
      | _ => simp only [Kind.policy, leaveBy, stays, Bool.false_eq_true, if_false]

theorem next_member_eq_skip (p : Playlist) (accepted : p.Accepted) (member : Nat) (inside : member < p.length)
    (ordered : p.InOrder member) : p.nextMember member = p.skip member (p.indentAt member) := by
  rcases p.next_member_cases member with past | ⟨joins, level⟩
  · exact past
  · rw [joins, skip, leave_onward p accepted member _ ordered (run_exit p member inside) level]

theorem advance_failed (p : Playlist) (lookup : String → Option Value) (member : Nat) (trail : Trail)
    (hosts : p.isHost member = true) :
    p.advance lookup member false trail = (p.skip member (p.indentAt member), trail) := by
  simp [advance, hosts]

theorem leave_finished_body (p : Playlist) (member : Nat) (kind : Kind)
    (known : p.kind? member = some kind) (chained : kind.policy = .chained) (enters : p.enters member = true) :
    p.leave (p.indentAt member + 1) (p.exitIndex member (p.indentAt member)) =
      p.leave (p.indentAt member) (p.chainEnd member) := by
  obtain ⟨hosts, nested⟩ := (p.enters_iff member).mp enters
  have inside := p.host_bound member hosts
  obtain ⟨low, bound, deeper, closed⟩ := p.exit_index_spec member (p.indentAt member) inside
  have later : member < p.exitIndex member (p.indentAt member) := by
    rcases Nat.lt_or_eq_of_le low with less | same
    · exact less
    · rw [← same] at closed
      omega
  have deep := deeper _ later (Nat.le_refl _)
  have hosted := p.host_at_eq (p.exitIndex member (p.indentAt member)) member (Nat.le_of_lt bound) later hosts
    fun other after before => deeper other after (Nat.le_of_lt before)
  rw [leave_succ p _ _ member kind hosted known, chained, leaveBy, if_pos]
  rw [p.exits_nested _ _ (by omega)]
  exact decide_eq_true closed

theorem failed_guard_as_false_condition (script : String) (commands : List Command) (p : Playlist)
    (built : build script commands = .ok p) (member : Nat) (condition : Expr)
    (branch : p.kind? member = some (.branch condition) ∨ p.kind? member = some (.elseBranch condition))
    (ordered : p.InOrder member) (lookup : String → Option Value) (trail : Trail) :
    let declined := p.skip member (p.indentAt member)
    p.advance lookup member false trail = (declined, trail) ∧
    declined = p.nextMember member ∧
    (∀ store visits, (Trail.condition visits store condition).1 = false → (p.move store member visits).1 = declined) ∧
    (∀ next kind, p.Sibling member next → p.kind? next = some kind → kind.continues = true → declined = .ok next) ∧
    ((∀ next kind, p.Sibling member next → p.kind? next = some kind → kind.continues = false) →
      declined = p.leave (p.indentAt member) (p.chainEnd member) ∧
      declined = p.leave (p.indentAt member + 1) (p.exitIndex member (p.indentAt member))) := by
  intro declined
  have accepted := ((build_ok_iff script commands p).mp built).2
  obtain ⟨kind, known, chained, requires, host⟩ : ∃ kind, p.kind? member = some kind ∧ kind.policy = .chained ∧
      kind.requiresBody = true ∧ kind.isHost = true := by
    rcases branch with known | known
    · exact ⟨_, known, rfl, rfl, rfl⟩
    · exact ⟨_, known, rfl, rfl, rfl⟩
  obtain ⟨command, found, same⟩ := Option.map_eq_some_iff.mp known
  have inside := p.command_bound member command found
  have enters := accepted.body member command found (same ▸ requires)
  have hosts : p.isHost member = true := by rw [p.host_of member command found, same, host]
  have next := next_member_eq_skip p accepted member inside ordered
  refine ⟨advance_failed p lookup member trail hosts, next.symm, fun store visits false_ => ?_,
    fun after kind sibling here continues => ?_, fun alone => ?_⟩
  · rw [move, if_neg (by omega), if_pos enters, enter_branch p store member visits condition branch]
    simp only [false_, Bool.false_eq_true, if_false, next, declined]
  · have place := sibling.exit_index
    have onward := leave_onward p accepted member _ ordered (run_exit p member inside) (by rw [place, sibling.level])
    rwa [place] at onward
  · have ended : ChainOver p (p.indentAt member) (p.exitIndex member (p.indentAt member)) := by
      intro after there level
      have bound := p.command_bound _ after there
      have sibling := sibling_at_exit p member inside bound ((p.indent_of _ after there).trans level)
      exact alone _ after.kind sibling (p.kind_of _ after there)
    have last : p.chainEnd member = p.exitIndex member (p.indentAt member) := chain_end_over _ _ ended
    have finished := leave_finished_body p member kind known chained enters
    rw [last] at finished ⊢
    exact ⟨rfl, finished.symm⟩

-- Two members of a chain at the end of a loop.
def forkedStory : List Command :=
  [⟨0, {}, none, true, .loop (.var "awake")⟩, ⟨1, {}, some (.var "bold"), true, .branch (.var "left")⟩,
    ⟨2, {}, none, true, .waitInput⟩, ⟨1, {}, some (.var "bold"), true, .elseBranch (.var "right")⟩,
    ⟨2, {}, none, true, .waitInput⟩]

theorem forked_in_order (member : Nat) (hosted : hostOf ⟨"story", forkedStory.toArray⟩ member = .ok 0) :
    InOrder ⟨"story", forkedStory.toArray⟩ member := by
  intro host found
  obtain rfl : 0 = host := Except.ok.inj (hosted.symm.trans found)
  refine ⟨fun delay => ?_, fun weights random => ?_⟩
  · obtain ⟨_, delay⟩ := delay
    cases delay
  · cases random

-- The first member is passed over on the way to the second one, and that one on the way back to the loop.
theorem forked_guards_fail :
    build "story" forkedStory = .ok ⟨"story", forkedStory.toArray⟩ ∧
      ∀ (lookup : String → Option Value) (trail : Trail),
        advance ⟨"story", forkedStory.toArray⟩ lookup 1 false trail = (.ok 3, trail) ∧
        advance ⟨"story", forkedStory.toArray⟩ lookup 3 false trail = (.ok 0, trail) ∧
        ((trail.condition lookup (.var "right")).1 = false →
          (move ⟨"story", forkedStory.toArray⟩ lookup 3 trail).1 = .ok 0) := by
  refine ⟨rfl, fun lookup trail => ?_⟩
  have first := failed_guard_as_false_condition "story" forkedStory _ rfl 1 _ (.inl rfl) (forked_in_order 1 rfl) lookup trail
  have second := failed_guard_as_false_condition "story" forkedStory _ rfl 3 _ (.inr rfl) (forked_in_order 3 rfl) lookup trail
  exact ⟨first.1, second.1, second.2.2.1 lookup trail⟩

end Playlist

end Storyline
