import Storyline.Playlist

set_option autoImplicit false

/-!
The layout of a playlist: what the scans over its indentation find. A block ends where the run of deeper commands ends, a
host is the nearest shallower command, and in an accepted playlist neither scan comes back empty-handed.
-/

namespace Storyline

theorem bind_ok {ε α β : Type} {x : Except ε α} {f : α → Except ε β} {b : β} (done : (x >>= f) = .ok b) :
    ∃ a, x = .ok a ∧ f a = .ok b := by
  cases x with
  | error cause => cases done
  | ok a => exact ⟨a, rfl, done⟩

namespace Playlist

variable (p : Playlist)

theorem command_found (index : Nat) (inside : index < p.length) :
    ∃ command, p.command? index = some command :=
  ⟨_, Array.getElem?_eq_getElem inside⟩

theorem command_bound (index : Nat) (command : Command) (found : p.command? index = some command) :
    index < p.length := by
  by_cases inside : index < p.length
  · exact inside
  · have absent : p.command? index = none := Array.getElem?_eq_none (Nat.le_of_not_gt inside)
    rw [absent] at found
    cases found

theorem command_past (index : Nat) (past : p.length ≤ index) : p.command? index = none :=
  Array.getElem?_eq_none past

theorem indent_of (index : Nat) (command : Command) (found : p.command? index = some command) :
    p.indentAt index = command.indent := by
  simp [indentAt, found]

theorem indent_past (index : Nat) (past : p.length ≤ index) : p.indentAt index = 0 := by
  simp [indentAt, command_past p index past]

theorem kind_of (index : Nat) (command : Command) (found : p.command? index = some command) :
    p.kind? index = some command.kind := by
  simp [kind?, found]

theorem host_of (index : Nat) (command : Command) (found : p.command? index = some command) :
    p.isHost index = command.kind.isHost := by
  simp [isHost, found, Command.isHost]

theorem host_bound (index : Nat) (host : p.isHost index = true) : index < p.length := by
  by_cases inside : index < p.length
  · exact inside
  · simp [isHost, command_past p index (Nat.le_of_not_gt inside)] at host

theorem indent_bound (index : Nat) (nested : 0 < p.indentAt index) : index < p.length := by
  by_cases inside : index < p.length
  · exact inside
  · rw [indent_past p index (Nat.le_of_not_gt inside)] at nested
    exact absurd nested (Nat.lt_irrefl 0)

theorem enters_iff (index : Nat) :
    p.enters index = true ↔ p.isHost index = true ∧ p.indentAt index < p.indentAt (index + 1) := by
  by_cases inside : index + 1 < p.length
  · obtain ⟨host, here⟩ := command_found p index (Nat.lt_of_succ_lt inside)
    obtain ⟨next, there⟩ := command_found p (index + 1) inside
    simp [enters, here, there, isHost, indentAt]
  · have past := command_past p (index + 1) (Nat.le_of_not_gt inside)
    have flat := indent_past p (index + 1) (Nat.le_of_not_gt inside)
    simp [enters, past, flat]

theorem enters_bound (index : Nat) (enters : p.enters index = true) : index + 1 < p.length :=
  indent_bound p _ (Nat.zero_lt_of_lt ((enters_iff p index).mp enters).2)

-- Past the end the indentation is zero, so a block that runs to the end of
-- the list also counts as closed there.
theorem exits_iff (index indent : Nat) (inside : index < p.length) :
    p.exits index indent = true ↔
      p.indentAt (index + 1) ≤ indent ∧ (index + 1 = p.length → 0 < p.indentAt index) := by
  by_cases last : index + 1 < p.length
  · obtain ⟨next, there⟩ := command_found p (index + 1) last
    have different : index + 1 ≠ p.length := Nat.ne_of_lt last
    simp [exits, there, indentAt, different]
  · have end_ : index + 1 = p.length := by omega
    have past := command_past p (index + 1) (by omega)
    have flat := indent_past p (index + 1) (by omega)
    simp only [exits, past, flat, decide_eq_true_eq, Nat.zero_le, true_and]
    exact ⟨fun nested _ => nested, fun nested => nested end_⟩

theorem exits_nested (index indent : Nat) (nested : 0 < p.indentAt index) :
    p.exits index indent = decide (p.indentAt (index + 1) ≤ indent) := by
  rw [Bool.eq_iff_iff, exits_iff p index indent (indent_bound p index nested)]
  simp [nested]

theorem exit_index_spec (start indent : Nat) (inside : start < p.length) :
    start ≤ p.exitIndex start indent ∧ p.exitIndex start indent < p.length ∧
      (∀ index, start < index → index ≤ p.exitIndex start indent → indent < p.indentAt index) ∧
      p.indentAt (p.exitIndex start indent + 1) ≤ indent := by
  have deeper (index : Nat) (bound : index + 1 < p.length) (stays : p.exits index indent = false) :
      indent < p.indentAt (index + 1) := by
    by_cases closed : p.indentAt (index + 1) ≤ indent
    · have exits := (exits_iff p index indent (by omega)).mpr ⟨closed, fun end_ => absurd end_ (by omega)⟩
      rw [stays] at exits
      cases exits
    · exact Nat.lt_of_not_le closed
  unfold exitIndex
  cases found : (List.range' start (p.length - start)).find? fun i => p.exits i indent with
  | none =>
      have stays := List.find?_range'_eq_none.mp found
      refine ⟨by simp only [Option.getD_none]; omega, by simp only [Option.getD_none]; omega, ?_, ?_⟩
      · intro index after upto
        simp only [Option.getD_none] at upto
        have before := stays (index - 1) (by omega) (by omega)
        have close : index - 1 + 1 = index := by omega
        simpa only [close] using deeper (index - 1) (by omega) (by simpa using before)
      · rw [indent_past p _ (by simp only [Option.getD_none]; omega)]
        exact Nat.zero_le indent
  | some last =>
      obtain ⟨exits, member, stays⟩ := List.find?_range'_eq_some.mp found
      have range := List.mem_range'_1.mp member
      refine ⟨range.1, by simp only [Option.getD_some]; omega, ?_, ?_⟩
      · intro index after upto
        simp only [Option.getD_some] at upto
        have before := stays (index - 1) (by omega) (by omega)
        have close : index - 1 + 1 = index := by omega
        simpa only [close] using deeper (index - 1) (by omega) (by simpa using before)
      · exact ((exits_iff p last indent (by omega)).mp exits).1

theorem exit_index_eq (start last indent : Nat) (from_ : start ≤ last) (inside : last < p.length)
    (deeper : ∀ index, start < index → index ≤ last → indent < p.indentAt index)
    (closed : p.indentAt (last + 1) ≤ indent) : p.exitIndex start indent = last := by
  obtain ⟨low, _, between, ending⟩ := exit_index_spec p start indent (by omega)
  rcases Nat.lt_trichotomy (p.exitIndex start indent) last with early | same | late
  · have open_ := deeper (p.exitIndex start indent + 1) (by omega) (by omega)
    omega
  · exact same
  · have open_ := between (last + 1) (by omega) (by omega)
    omega

theorem shallower_eq (indent bound host : Nat) (below : host < bound)
    (shallow : p.indentAt host ≤ indent)
    (deeper : ∀ index, host < index → index < bound → indent < p.indentAt index) :
    p.shallower? indent bound = some host := by
  induction bound with
  | zero => omega
  | succ bound ih =>
      by_cases here : host = bound
      · subst host
        simp [shallower?, shallow]
      · have stays := deeper bound (by omega) (by omega)
        rw [shallower?, if_neg (by omega)]
        exact ih (by omega) (fun index after before => deeper index after (by omega))

theorem shallower_spec (indent bound : Nat) (reached : ∃ index, index < bound ∧ p.indentAt index ≤ indent) :
    ∃ host, p.shallower? indent bound = some host ∧ host < bound ∧ p.indentAt host ≤ indent ∧
      ∀ index, host < index → index < bound → indent < p.indentAt index := by
  induction bound with
  | zero =>
      obtain ⟨index, before, _⟩ := reached
      omega
  | succ bound ih =>
      by_cases here : p.indentAt bound ≤ indent
      · exact ⟨bound, by simp [shallower?, here], by omega, here, fun index after before => by omega⟩
      · obtain ⟨index, before, shallow⟩ := reached
        have earlier : index < bound := by
          rcases Nat.lt_or_eq_of_le (Nat.le_of_lt_succ before) with less | same
          · exact less
          · exact absurd (same ▸ shallow) here
        obtain ⟨host, found, below, low, deeper⟩ := ih ⟨index, earlier, shallow⟩
        refine ⟨host, by simp [shallower?, here, found], by omega, low, ?_⟩
        intro index after before
        rcases Nat.lt_or_eq_of_le (Nat.le_of_lt_succ before) with less | same
        · exact deeper index after less
        · exact same ▸ Nat.lt_of_not_le here

theorem host_at_eq (index host : Nat) (inside : index ≤ p.length) (below : host < index)
    (hosts : p.isHost host = true)
    (deeper : ∀ other, host < other → other < index → p.indentAt host < p.indentAt other) :
    p.hostAt index (p.indentAt host) = .ok host := by
  have found := shallower_eq p (p.indentAt host) index host below (Nat.le_refl _) deeper
  simp [hostAt, hostAt?, Nat.min_eq_left inside, found, hosts, Option.filter]

-- What validation guarantees at every index, the first one included.
structure Accepted (p : Playlist) : Prop where
  first : p.indentAt 0 = 0
  step : ∀ index, p.indentAt (index + 1) ≤ p.indentAt index + 1
  host : ∀ index, p.indentAt index < p.indentAt (index + 1) → p.isHost index = true
  body : ∀ index command, p.command? index = some command → command.kind.requiresBody = true → p.enters index = true
  chain : ∀ index command, p.command? index = some command → command.kind.continues = true →
    p.misplaced index command = false

theorem pair_error_none (index : Nat) :
    p.pairError? index = none ↔
      p.indentAt (index + 1) ≤ p.indentAt index + 1 ∧
      (p.indentAt index < p.indentAt (index + 1) → p.isHost index = true) ∧
      (∀ after, p.command? (index + 1) = some after → after.kind.continues = true →
        p.misplaced (index + 1) after = false) := by
  by_cases inside : index + 1 < p.length
  · obtain ⟨before, here⟩ := command_found p index (Nat.lt_of_succ_lt inside)
    obtain ⟨after, there⟩ := command_found p (index + 1) inside
    simp only [pairError?, here, there, indent_of p _ _ here, indent_of p _ _ there, host_of p _ _ here,
      Option.some.injEq, forall_eq']
    by_cases jump : before.indent + 1 < after.indent
    · rw [if_pos jump]
      simp only [reduceCtorEq, false_iff]
      exact fun gentle => absurd gentle.1 (Nat.not_le_of_gt jump)
    · rw [if_neg jump]
      by_cases leaf : before.indent < after.indent ∧ ¬before.isHost = true
      · rw [if_pos leaf]
        simp only [reduceCtorEq, false_iff]
        exact fun gentle => leaf.2 (gentle.2.1 leaf.1)
      · rw [if_neg leaf]
        have nested : before.indent < after.indent → before.kind.isHost = true := fun deeper =>
          Classical.byContradiction fun bare => leaf ⟨deeper, bare⟩
        by_cases orphan : after.kind.continues = true ∧ p.misplaced (index + 1) after = true
        · rw [if_pos orphan]
          simp only [reduceCtorEq, false_iff]
          intro gentle
          have placed := gentle.2.2 orphan.1
          rw [orphan.2] at placed
          cases placed
        · rw [if_neg orphan]
          refine iff_of_true rfl ⟨Nat.le_of_not_lt jump, nested, fun continues => ?_⟩
          exact Bool.eq_false_iff.mpr fun misplaced => orphan ⟨continues, misplaced⟩
  · have past := command_past p (index + 1) (Nat.le_of_not_gt inside)
    have flat := indent_past p (index + 1) (Nat.le_of_not_gt inside)
    simp [pairError?, past, flat]

theorem body_error_none (index : Nat) :
    p.bodyError? index = none ↔
      ∀ command, p.command? index = some command → command.kind.requiresBody = true → p.enters index = true := by
  cases found : p.command? index with
  | none => simp [bodyError?, found]
  | some command => simp [bodyError?, found]

theorem misplaced_first (command : Command) : p.misplaced 0 command = true := rfl

theorem fault_none_iff : p.fault? = none ↔ p.Accepted := by
  cases found : p.command? 0 with
  | none =>
      have empty (index : Nat) : p.command? index = none := by
        apply command_past
        by_cases inside : 0 < p.length
        · obtain ⟨first, here⟩ := command_found p 0 inside
          rw [found] at here
          cases here
        · omega
      have flat (index : Nat) : p.indentAt index = 0 := by simp [indentAt, empty]
      simp only [fault?, found, true_iff]
      exact ⟨flat 0, fun index => by simp [flat], fun index deeper => by simp [flat] at deeper,
        fun index command here => by simp [empty] at here, fun index command here => by simp [empty] at here⟩
  | some first =>
      have start := indent_of p 0 first found
      have inside := command_bound p 0 first found
      simp only [fault?, found]
      by_cases indented : first.indent ≠ 0
      · simp only [if_pos indented, reduceCtorEq, false_iff]
        exact fun accepted => indented (start ▸ accepted.first)
      · simp only [if_neg indented, Option.or_eq_none_iff, List.findSome?_eq_none_iff, List.mem_range]
        constructor
        · rintro ⟨pairs, bodies, head⟩
          have pair (index : Nat) : p.pairError? index = none := by
            by_cases bound : index < p.length - 1
            · exact pairs index bound
            · simp [pairError?, command_past p (index + 1) (by omega)]
          refine ⟨by omega, fun index => ((pair_error_none p index).mp (pair index)).1,
            fun index => ((pair_error_none p index).mp (pair index)).2.1, ?_, ?_⟩
          · intro index command here
            exact (body_error_none p index).mp (bodies index (command_bound p index command here)) command here
          · intro index command here continues
            cases index with
            | zero =>
                obtain rfl : first = command := Option.some.inj (found.symm.trans here)
                simp [continues] at head
            | succ index => exact ((pair_error_none p index).mp (pair index)).2.2 command here continues
        · intro accepted
          refine ⟨fun index _ => ?_, fun index _ => ?_, ?_⟩
          · exact (pair_error_none p index).mpr
              ⟨accepted.step index, accepted.host index, accepted.chain (index + 1)⟩
          · exact (body_error_none p index).mpr (accepted.body index)
          · by_cases continues : first.kind.continues = true
            · have placed := accepted.chain 0 first found continues
              rw [misplaced_first] at placed
              cases placed
            · simp [continues]

theorem build_ok_iff (script : String) (commands : List Command) (p : Playlist) :
    build script commands = .ok p ↔ p = ⟨script, commands.toArray⟩ ∧ p.Accepted := by
  simp only [build]
  cases fault : fault? ⟨script, commands.toArray⟩ with
  | none =>
      have accepted := (fault_none_iff _).mp fault
      constructor
      · intro same
        cases same
        exact ⟨rfl, accepted⟩
      · rintro ⟨rfl, _⟩
        rfl
  | some cause =>
      constructor
      · intro same
        cases same
      · rintro ⟨rfl, accepted⟩
        rw [(fault_none_iff _).mpr accepted] at fault
        cases fault

end Playlist

end Storyline
