import Storyline.Proofs.Deferral

set_option autoImplicit false

/-!
Hosts and children. A block is listed by a scan forward to its end, and a host is looked up by a scan backward. Both describe
the same tree: the children of a command are the commands one level deeper that it encloses. Looking up hosts one after another
climbs one level at a time to the top, and the delay block around a command is the first that is met on this way.
-/

namespace Storyline

namespace Playlist

section Tree

variable (p : Playlist) (accepted : p.Accepted)
include accepted

theorem encloses_enters (host child : Nat) (encloses : p.Encloses host child) : p.enters host = true := by
  have first := encloses.2 (host + 1) (Nat.lt_succ_self host) encloses.1
  exact (p.enters_iff host).mpr ⟨accepted.host host first, first⟩

theorem mem_children_iff (host child : Nat) :
    child ∈ p.children host ↔ p.Encloses host child ∧ p.indentAt child = p.indentAt host + 1 := by
  constructor
  · intro listed
    obtain ⟨after, _, level, between⟩ := mem_children p host child listed
    exact ⟨⟨after, between⟩, level⟩
  · rintro ⟨encloses, level⟩
    have enters := p.encloses_enters accepted host child encloses
    have first := p.indent_bound (host + 1) (Nat.zero_lt_of_lt (encloses.2 (host + 1) (Nat.lt_succ_self host) encloses.1))
    obtain ⟨_, _, _, closed⟩ := p.exit_index_spec (host + 1) (p.indentAt host) first
    have upto : child ≤ p.exitIndex (host + 1) (p.indentAt host) := by
      by_cases within : child ≤ p.exitIndex (host + 1) (p.indentAt host)
      · exact within
      · have deeper := encloses.2 (p.exitIndex (host + 1) (p.indentAt host) + 1) (by omega) (by omega)
        omega
    have after := encloses.1
    simp only [children, bodyEnd, if_pos enters, List.mem_filter, List.mem_range'_1, decide_eq_true_eq]
    exact ⟨by omega, level⟩

theorem host_of_iff (host child : Nat) :
    p.hostOf child = .ok host ↔ p.Encloses host child ∧ p.indentAt child = p.indentAt host + 1 := by
  constructor
  · intro hosted
    by_cases nested : 0 < p.indentAt child
    · obtain ⟨found, hostedAt, _, level, encloses⟩ := host_of_nested p accepted child nested
      obtain rfl : found = host := Except.ok.inj (hostedAt.symm.trans hosted)
      exact ⟨encloses, level⟩
    · rw [hostOf, Nat.eq_zero_of_not_pos nested] at hosted
      cases hosted
  · rintro ⟨encloses, level⟩
    have inside := p.indent_bound child (by omega)
    have hosts := ((p.enters_iff host).mp (p.encloses_enters accepted host child encloses)).1
    rw [hostOf, level]
    exact p.host_at_eq child host (Nat.le_of_lt inside) encloses.1 hosts fun other after before =>
      encloses.2 other after (Nat.le_of_lt before)

end Tree

theorem children_increasing (p : Playlist) (host : Nat) : (p.children host).Pairwise (· < ·) :=
  List.Pairwise.filter _ List.pairwise_lt_range'

/-! ### Climbing -/

-- The command that is reached by looking up hosts `levels` times.
def ancestor? (p : Playlist) : Nat → Nat → Option Nat
  | 0, index => some index
  | levels + 1, index => (p.hostOf index).toOption.bind (p.ancestor? levels)

theorem ancestor_of_host (p : Playlist) (levels index host : Nat) (hosted : p.hostOf index = .ok host) :
    p.ancestor? (levels + 1) index = p.ancestor? levels host := by
  rw [ancestor?, hosted]
  rfl

theorem ancestor_of_top (p : Playlist) (levels index : Nat) (top : p.indentAt index = 0) :
    p.ancestor? (levels + 1) index = none := by
  rw [ancestor?, hostOf, top]
  rfl

-- A delay block `levels + 1` lookups away, and none nearer.
def IsNearestDelay (p : Playlist) (index host : Nat) : Prop :=
  ∃ levels, p.ancestor? (levels + 1) index = some host ∧ p.IsDelay host ∧
    ∀ fewer nearer, fewer < levels → p.ancestor? (fewer + 1) index = some nearer → ¬p.IsDelay nearer

theorem nearest_delay_of_host (p : Playlist) (index between host : Nat) (hosted : p.hostOf index = .ok between) :
    p.IsNearestDelay index host ↔
      (between = host ∧ p.IsDelay between) ∨ (¬p.IsDelay between ∧ p.IsNearestDelay between host) := by
  simp only [IsNearestDelay, p.ancestor_of_host _ index between hosted]
  constructor
  · rintro ⟨levels, reached, delay, none_nearer⟩
    cases levels with
    | zero =>
        obtain rfl : between = host := Option.some.inj reached
        exact .inl ⟨rfl, delay⟩
    | succ levels =>
        exact .inr ⟨none_nearer 0 between (Nat.succ_pos _) rfl, levels, reached, delay, fun fewer nearer less =>
          none_nearer (fewer + 1) nearer (Nat.succ_lt_succ less)⟩
  · rintro (⟨rfl, delay⟩ | ⟨other, levels, reached, delay, none_nearer⟩)
    · exact ⟨0, rfl, delay, fun _ _ less => absurd less (Nat.not_lt_zero _)⟩
    · refine ⟨levels + 1, reached, delay, fun fewer nearer less met => ?_⟩
      cases fewer with
      | zero => exact Option.some.inj met ▸ other
      | succ fewer => exact none_nearer fewer nearer (Nat.lt_of_succ_lt_succ less) met

section Climb

variable (p : Playlist) (accepted : p.Accepted)
include accepted

theorem ancestor_found_iff (levels index : Nat) :
    (∃ host, p.ancestor? levels index = some host) ↔ levels ≤ p.indentAt index := by
  induction levels generalizing index with
  | zero => exact ⟨fun _ => Nat.zero_le _, fun _ => ⟨index, rfl⟩⟩
  | succ levels ih =>
      by_cases nested : 0 < p.indentAt index
      · obtain ⟨host, hosted, _, level, _⟩ := host_of_nested p accepted index nested
        rw [p.ancestor_of_host levels index host hosted, ih host, level, Nat.succ_le_succ_iff]
      · have top := Nat.eq_zero_of_not_pos nested
        simp [p.ancestor_of_top levels index top, top]

-- A search through at least as many hosts as there are levels is never cut short.
theorem deferred_within_nearest (levels index host : Nat) (enough : p.indentAt index ≤ levels) :
    p.deferredWithin? levels index = some host ↔ p.IsNearestDelay index host := by
  induction levels generalizing index with
  | zero =>
      have top := Nat.le_zero.mp enough
      simp [deferredWithin?, IsNearestDelay, p.ancestor_of_top _ index top]
  | succ levels ih =>
      by_cases nested : 0 < p.indentAt index
      · obtain ⟨between, hosted, _, level, _⟩ := host_of_nested p accepted index nested
        rw [p.nearest_delay_of_host index between host hosted, ← ih between (by omega), ← delay_iff, deferredWithin?, hosted]
        simp only
        generalize ((p.kind? between).map Kind.isDelay).getD false = delays
        cases delays <;> simp
      · have top := Nat.eq_zero_of_not_pos nested
        simp [deferredWithin?, hostOf, IsNearestDelay, p.ancestor_of_top _ index top, top]

theorem deferred_host_none_iff (index : Nat) :
    p.deferredHost? index = none ↔ ∀ levels host, p.ancestor? (levels + 1) index = some host → ¬p.IsDelay host := by
  simp only [Option.eq_none_iff_forall_ne_some, deferredHost?, Ne,
    p.deferred_within_nearest accepted _ index _ (Nat.le_refl _)]
  constructor
  · intro nowhere levels
    -- the least of the levels with a delay block would be the nearest one
    induction levels using Nat.strongRecOn with
    | ind levels ih =>
        intro host reached delay
        exact nowhere host ⟨levels, reached, delay, fun fewer nearer less => ih fewer less nearer⟩
  · rintro nowhere host ⟨levels, reached, delay, _⟩
    exact nowhere levels host reached delay

end Climb

theorem hosts_and_children_form_tree (script : String) (commands : List Command) (p : Playlist)
    (built : build script commands = .ok p) :
    -- the two scans are inverse
    (∀ host child, child ∈ p.children host ↔ p.hostOf child = .ok host) ∧
    (∀ host, (p.children host).Pairwise (· < ·)) ∧
    (∀ index, (∃ host, p.hostOf index = .ok host) ↔ 0 < p.indentAt index) ∧
    (∀ index host, p.hostOf index = .ok host →
      p.isHost host = true ∧ host < index ∧ p.indentAt index = p.indentAt host + 1 ∧
        ∀ between, host < between → between < index → p.indentAt host < p.indentAt between) ∧
    -- looking up hosts ends at the top, and the nearest delay block on the way is found however far the search may go
    ∀ index,
      (∀ levels, (∃ host, p.ancestor? levels index = some host) ↔ levels ≤ p.indentAt index) ∧
      (∀ levels, p.indentAt index ≤ levels → p.deferredWithin? levels index = p.deferredHost? index) ∧
      (∀ host, p.deferredHost? index = some host ↔ ∃ levels, p.ancestor? (levels + 1) index = some host ∧ p.IsDelay host ∧
        ∀ fewer nearer, fewer < levels → p.ancestor? (fewer + 1) index = some nearer → ¬p.IsDelay nearer) ∧
      (p.deferredHost? index = none ↔ ∀ levels host, p.ancestor? (levels + 1) index = some host → ¬p.IsDelay host) := by
  obtain ⟨_, accepted⟩ := (build_ok_iff script commands p).mp built
  refine ⟨fun host child => ?_, p.children_increasing, fun index => ?_, fun index host hosted => ?_, fun index => ⟨?_, ?_, ?_, ?_⟩⟩
  · rw [p.mem_children_iff accepted, p.host_of_iff accepted]
  · constructor
    · rintro ⟨host, hosted⟩
      have level := ((p.host_of_iff accepted host index).mp hosted).2
      omega
    · intro nested
      obtain ⟨host, hosted, _⟩ := host_of_nested p accepted index nested
      exact ⟨host, hosted⟩
  · obtain ⟨encloses, level⟩ := (p.host_of_iff accepted host index).mp hosted
    have hosts := ((p.enters_iff host).mp (p.encloses_enters accepted host index encloses)).1
    exact ⟨hosts, encloses.1, level, fun between after before => encloses.2 between after (Nat.le_of_lt before)⟩
  · exact fun levels => p.ancestor_found_iff accepted levels index
  · intro levels enough
    refine Option.ext fun host => ?_
    rw [p.deferred_within_nearest accepted levels index host enough, deferredHost?,
      p.deferred_within_nearest accepted _ index host (Nat.le_refl _)]
  · exact fun host => p.deferred_within_nearest accepted _ index host (Nat.le_refl _)
  · exact p.deferred_host_none_iff accepted index

-- A command of a loop in a delay block, all inside a group. The delay block is the third host on the way up.
def sunkenStory : List Command :=
  [⟨0, {}, none, true, .group⟩, ⟨1, {}, none, true, .delay 5⟩, ⟨2, {}, none, true, .await⟩,
    ⟨3, {}, none, true, .loop (.var "more")⟩, ⟨4, {}, none, true, .waitInput⟩, ⟨2, {}, none, true, .stop⟩]

theorem sunken_story_forms_tree :
    let p : Playlist := ⟨"story", sunkenStory.toArray⟩
    build "story" sunkenStory = .ok p ∧ p.children 1 = [2, 5] ∧ p.hostOf 5 = .ok 1 ∧ p.deferredHost? 4 = some 1 ∧
      ∃ levels, p.ancestor? (levels + 1) 4 = some 1 ∧
        ∀ fewer nearer, fewer < levels → p.ancestor? (fewer + 1) 4 = some nearer → ¬p.IsDelay nearer := by
  have tree := hosts_and_children_form_tree "story" sunkenStory _ rfl
  obtain ⟨levels, reached, _, none_nearer⟩ := ((tree.2.2.2.2 4).2.2.1 1).mp rfl
  exact ⟨rfl, rfl, (tree.1 1 5).mp (by decide), rfl, levels, reached, none_nearer⟩

end Playlist

end Storyline
