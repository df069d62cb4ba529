import Storyline.Proofs.Hosts

set_option autoImplicit false

/-!
Walking through a whole list. A row of blocks is simulated by recursion on the row, the bodies before the rest: in order,
past the members of a chain that are left out, or through one block alone. So walking the flat list visits what the
structured interpreter visits.
-/

namespace Storyline

theorem play_nothing (reader : Reader) (row : Forest) (start : Nat) (tour : Tour) :
    row.play reader .nothing start tour = .ok tour := by
  induction row generalizing start with
  | nil => rfl
  | cons command body rest _ restIh => exact restIh (start + 1 + body.size)

theorem play_beyond_apart (reader : Reader) (command : Command) (body rest : Forest) (start : Nat) (tour : Tour)
    (apart : command.kind.continues = false) :
    (Forest.cons command body rest).play reader .beyond start tour =
      (Forest.cons command body rest).play reader .all start tour := by
  have reads : Reading.omitting? .beyond start command.kind = none := by
    cases kind : command.kind <;> simp_all [Reading.omitting?, Kind.continues]
  have same (outcome : Outcome) : Reading.beyond.after outcome = Reading.all.after outcome := by cases outcome <;> rfl
  simp only [Forest.play, reads, same]
  rfl

theorem play_beyond_closing (reader : Reader) (command : Command) (body rest : Forest) (start : Nat) (tour : Tour)
    (closing : command.kind = .endBranch) :
    (Forest.cons command body rest).play reader .beyond start tour =
      rest.play reader .all (start + 1 + body.size) tour := by
  simp only [Forest.play, closing, Reading.omitting?]

theorem play_beyond_member (reader : Reader) (command : Command) (body rest : Forest) (start : Nat) (tour : Tour)
    (joins : command.kind.continues = true) (inner : command.kind ≠ .endBranch) :
    (Forest.cons command body rest).play reader .beyond start tour =
      rest.play reader .beyond (start + 1 + body.size) tour := by
  have reads : Reading.omitting? .beyond start command.kind = some .beyond := by
    cases kind : command.kind <;> simp_all [Reading.omitting?, Kind.continues]
  simp only [Forest.play, reads]

theorem starts_later (row : Forest) (start child : Nat) (member : child ∈ row.starts start) : start ≤ child := by
  induction row generalizing start with
  | nil => cases member
  | cons command body rest _ restIh =>
      rcases List.mem_cons.mp member with here | later
      · exact Nat.le_of_eq here.symm
      · have after := restIh _ later
        omega

theorem placed_size (p : Playlist) (depth start : Nat) (row : Forest) (placed : Forest.Placed p depth start row) :
    row.size ≤ p.length := by
  cases empty : row.size with
  | zero => exact Nat.zero_le _
  | succ size =>
      have last := (@Forest.lies_depth _ _ _ _ (start + size) placed.lies (by omega) (by omega)).1
      omega

section Row

variable (p : Playlist) (reader : Reader)

-- The place before a row is the end of a member that ran its body.
def FollowsBeyond (depth start last : Nat) (row : Forest) : Prop :=
  ∀ before members, before + 1 = start → row.size ≤ members → ∀ tour : Tour, tour.Below start →
    p.resume reader (p.leave depth (p.chainEndFrom depth members before)) tour =
      row.play reader .beyond start tour >>= fun done => p.resume reader (p.leave depth last) done

-- The place before a row is the end of a member that declined its body.
def FollowsOnward (depth start : Nat) (after : Except StructuralError Nat) (row : Forest) : Prop :=
  ∀ before, before + 1 = start → ∀ tour : Tour, tour.Below start →
    p.resume reader (p.nextFrom depth before) tour =
      row.play reader .onward start tour >>= fun done => p.resume reader after done

variable {p reader} {depth start : Nat}

-- No member of the chain follows the one that ends at `before`.
def ChainOver (p : Playlist) (depth before : Nat) : Prop :=
  ∀ next, p.command? (before + 1) = some next → next.indent = depth → next.kind.continues = false

theorem next_from_over (before : Nat) (ended : ChainOver p depth before) : p.nextFrom depth before = p.leave depth before := by
  unfold Playlist.nextFrom
  cases found : p.command? (before + 1) with
  | none => rfl
  | some next =>
      by_cases level : next.indent = depth
      · simp [ended next found level]
      · simp [level]

theorem chain_end_over (before members : Nat) (ended : ChainOver p depth before) :
    p.chainEndFrom depth members before = before := by
  cases members with
  | zero => rfl
  | succ members =>
      unfold Playlist.chainEndFrom
      cases found : p.command? (before + 1) with
      | none => rfl
      | some next =>
          by_cases level : next.indent = depth
          · simp [ended next found level]
          · simp [level]

theorem over_at_end (before : Nat) (placed : Forest.Placed p depth (before + 1) .nil) : ChainOver p depth before := by
  intro next found level
  have inside := p.command_bound (before + 1) next found
  have here := p.indent_of (before + 1) next found
  have ends := placed.ends
  simp only [Forest.size, Nat.add_zero] at ends
  omega

section Cons

variable {command : Command} {body rest : Forest} {before : Nat}
  (placed : Forest.Placed p depth (before + 1) (.cons command body rest))

include placed

theorem over_at_other (apart : command.kind.continues = false) : ChainOver p depth before := by
  intro next found _
  obtain rfl := Option.some.inj (found.symm.trans placed.lies.1)
  exact apart

theorem next_from_member (joins : command.kind.continues = true) : p.nextFrom depth before = .ok (before + 1) := by
  simp [Playlist.nextFrom, placed.lies.1, placed.lies.2.1, joins]

theorem chain_end_member (members : Nat) (joins : command.kind.continues = true) (inner : command.kind ≠ .endBranch) :
    p.chainEndFrom depth (members + 1) before = p.chainEndFrom depth members (before + 1 + body.size) := by
  rw [Playlist.chainEndFrom, placed.lies.1]
  simp only [placed.lies.2.1, joins, decide_true, Bool.and_self, if_true, Forest.placed_exit_index placed]

theorem chain_end_closing (members : Nat) (closing : command.kind = .endBranch) :
    p.chainEndFrom depth (members + 1) before = before + 1 + body.size := by
  rw [Playlist.chainEndFrom, placed.lies.1]
  simp [placed.lies.2.1, closing, Kind.continues, Forest.placed_exit_index placed]

end Cons

/-! A row in order. -/

section Ordered

variable {first last : Nat}

theorem follows_beyond_nil (before : Nat) (placed : Forest.Placed p depth (before + 1) .nil) (ends : last = before) :
    FollowsBeyond p reader depth (before + 1) last .nil := by
  intro before' members adjacent _ tour _
  obtain rfl : before' = before := by omega
  rw [chain_end_over before' members (over_at_end before' placed), ends]
  rfl

variable (context : p.GoesOn depth first last)

include context

theorem follows_next (row : Forest) (before : Nat) (placed : Forest.Placed p depth (before + 1) row) (low : first ≤ before)
    (ends : last = before + row.size)
    (all : row.isEmpty = false → FollowsAll p reader depth (before + 1) last row) (tour : Tour)
    (below : tour.Below (before + 1)) :
    p.resume reader (p.leave depth before) tour =
      row.play reader .all (before + 1) tour >>= fun done => p.resume reader (p.leave depth last) done := by
  cases row with
  | nil =>
      obtain rfl : last = before := ends
      rfl
  | cons command body rest =>
      have inside : before < last := by simp only [ends, Forest.size]; omega
      rw [context before low inside (Forest.placed_indent placed)]
      exact all rfl tour below

theorem follows_declined (row : Forest) (before : Nat) (placed : Forest.Placed p depth (before + 1) row)
    (low : first ≤ before) (ends : last = before + row.size)
    (all : row.isEmpty = false → FollowsAll p reader depth (before + 1) last row) (tour : Tour)
    (below : tour.Below (before + 1)) :
    p.resume reader (p.nextFrom depth before) tour =
      row.play reader .all (before + 1) tour >>= fun done => p.resume reader (p.leave depth last) done := by
  have next := follows_next context row before placed low ends all tour below
  cases row with
  | nil => rwa [next_from_over before (over_at_end before placed)]
  | cons command body rest =>
      by_cases joins : command.kind.continues = true
      · rw [next_from_member placed joins]
        exact all rfl tour below
      · rwa [next_from_over before (over_at_other placed (Bool.eq_false_iff.mpr joins))]

section Cons

variable {command : Command} {body rest : Forest}
  (placed : Forest.Placed p depth start (.cons command body rest)) (low : first ≤ start)
  (ends : last = start + body.size + rest.size)
  (all : rest.isEmpty = false → FollowsAll p reader depth (start + 1 + body.size) last rest)
  (beyond : FollowsBeyond p reader depth (start + 1 + body.size) last rest)

include placed low ends all beyond

theorem follows_outcome (outcome : Outcome) (tour : Tour) (below : tour.Below start) :
    p.resume reader (p.afterBlock depth start (start + body.size) outcome) tour =
      rest.play reader (Reading.all.after outcome) (start + 1 + body.size) tour >>= fun done =>
        p.resume reader (p.leave depth last) done := by
  have adjacent : start + 1 + body.size = start + body.size + 1 := by omega
  have outer := Forest.placed_rest placed
  have later := below.mono (by omega : start ≤ start + body.size + 1)
  rw [adjacent] at outer all beyond ⊢
  cases outcome with
  | passed => exact follows_next context rest (start + body.size) outer (by omega) ends all tour later
  | ran =>
      rw [Playlist.afterBlock, Forest.placed_chain_end placed]
      exact beyond _ _ rfl (placed_size p depth _ rest outer) tour later
  | declined =>
      rw [Playlist.afterBlock, Forest.placed_next_member placed]
      exact follows_declined context rest (start + body.size) outer (by omega) ends all tour later

theorem follows_all_cons (block : FollowsBlock p reader depth start command body) :
    FollowsAll p reader depth start last (.cons command body rest) := by
  intro tour below
  rw [block tour below, Forest.play, Reading.omitting?, bind_assoc]
  apply bind_same
  intro played ran
  have kept := played_kept reader command.kind body start tour played below ran
  exact follows_outcome context placed low ends all beyond played.1 played.2 (kept.below below)

theorem follows_beyond_cons (entered : first < start) (block : FollowsBlock p reader depth start command body) :
    FollowsBeyond p reader depth start last (.cons command body rest) := by
  intro before members adjacent enough tour below
  subst adjacent
  by_cases joins : command.kind.continues = true
  · obtain ⟨fewer, rfl⟩ : ∃ fewer, members = fewer + 1 := ⟨members - 1, by simp only [Forest.size] at enough; omega⟩
    by_cases closing : command.kind = .endBranch
    · rw [chain_end_closing placed fewer closing, play_beyond_closing reader command body rest _ tour closing]
      exact follows_outcome context placed low ends all beyond .passed tour below
    · rw [chain_end_member placed fewer joins closing, play_beyond_member reader command body rest _ tour joins closing]
      simp only [Forest.size] at enough
      exact beyond _ fewer (by omega) (by omega) tour (below.mono (by omega))
  · have apart := Bool.eq_false_iff.mpr joins
    have inside : before < last := by omega
    rw [chain_end_over before members (over_at_other placed apart), play_beyond_apart reader command body rest _ tour apart,
      context before (by omega) inside (Forest.placed_indent placed)]
    exact follows_all_cons context placed low ends all beyond block tour below

end Cons

end Ordered

/-! A row of which one block is played. -/

section Single

variable {first last : Nat} {after : Except StructuralError Nat} (context : p.LeavesTo depth first last after)

theorem chain_end_within (row : Forest) (before members : Nat) (placed : Forest.Placed p depth (before + 1) row) :
    before ≤ p.chainEndFrom depth members before ∧ p.chainEndFrom depth members before ≤ before + row.size := by
  induction row generalizing before members with
  | nil =>
      rw [chain_end_over before members (over_at_end before placed)]
      exact ⟨Nat.le_refl _, Nat.le_add_right _ _⟩
  | cons command body rest _ restIh =>
      by_cases joins : command.kind.continues = true
      · cases members with
        | zero => exact ⟨Nat.le_refl _, Nat.le_add_right _ _⟩
        | succ fewer =>
            simp only [Forest.size]
            by_cases closing : command.kind = .endBranch
            · rw [chain_end_closing placed fewer closing]
              omega
            · rw [chain_end_member placed fewer joins closing]
              have outer := Forest.placed_rest placed
              rw [Nat.add_right_comm] at outer
              have within := restIh (before + 1 + body.size) fewer outer
              omega
      · rw [chain_end_over before members (over_at_other placed (Bool.eq_false_iff.mpr joins))]
        exact ⟨Nat.le_refl _, Nat.le_add_right _ _⟩

include context

theorem follows_onward_nil (before : Nat) (placed : Forest.Placed p depth (before + 1) .nil) (low : first ≤ before)
    (ends : last = before) : FollowsOnward p reader depth (before + 1) after .nil := by
  intro before' adjacent tour _
  obtain rfl : before' = before := by omega
  rw [next_from_over before' (over_at_end before' placed), context before' low (by omega)]
  rfl

section Cons

variable {command : Command} {body rest : Forest}
  (placed : Forest.Placed p depth start (.cons command body rest)) (low : first ≤ start)
  (ends : last = start + body.size + rest.size)
  (onward : FollowsOnward p reader depth (start + 1 + body.size) after rest)

include placed low ends onward

theorem follows_single_outcome (outcome : Outcome) (tour : Tour) (below : tour.Below start) :
    p.resume reader (p.afterBlock depth start (start + body.size) outcome) tour =
      rest.play reader (Reading.onward.after outcome) (start + 1 + body.size) tour >>= fun done =>
        p.resume reader after done := by
  have outer := Forest.placed_rest placed
  rw [Nat.add_right_comm] at outer
  have idle := play_nothing reader rest (start + 1 + body.size) tour
  cases outcome with
  | passed =>
      have read : Reading.onward.after .passed = .nothing := rfl
      rw [Playlist.afterBlock, context (start + body.size) (by omega) (by omega), read, idle]
      rfl
  | ran =>
      have read : Reading.onward.after .ran = .nothing := rfl
      have within := chain_end_within rest (start + body.size) p.length outer
      rw [Playlist.afterBlock, Forest.placed_chain_end placed, context _ (by omega) (by omega), read, idle]
      rfl
  | declined =>
      rw [Playlist.afterBlock, Forest.placed_next_member placed]
      exact onward _ (by omega) tour (below.mono (by omega))

variable (block : FollowsBlock p reader depth start command body)

include block

theorem follows_single (reading : Reading)
    (single : reading = .only start ∨ reading = .onward ∧ command.kind.continues = true) (tour : Tour)
    (below : tour.Below start) :
    p.resume reader (.ok start) tour =
      (Forest.cons command body rest).play reader reading start tour >>= fun done => p.resume reader after done := by
  have reads : reading.omitting? start command.kind = none := by
    rcases single with rfl | ⟨rfl, joins⟩ <;> simp [Reading.omitting?, *]
  have same (outcome : Outcome) : reading.after outcome = Reading.onward.after outcome := by
    rcases single with rfl | ⟨rfl, _⟩ <;> cases outcome <;> rfl
  rw [block tour below]
  simp only [Forest.play, reads, same, bind_assoc]
  apply bind_same
  intro played ran
  have kept := played_kept reader command.kind body start tour played below ran
  exact follows_single_outcome context placed low ends onward played.1 played.2 (kept.below below)

theorem follows_only_cons (only : FollowsOnly p reader (start + 1 + body.size) after rest) :
    FollowsOnly p reader start after (.cons command body rest) := by
  intro child member tour below
  rcases List.mem_cons.mp member with rfl | later
  · exact follows_single context placed low ends onward block _ (.inl rfl) tour below
  · have beyond := starts_later rest _ child later
    have omits : Reading.omitting? (.only child) start command.kind = some (.only child) := by
      rw [Reading.omitting?, if_neg (by omega)]
    simp only [Forest.play, omits]
    exact only child later tour (below.mono (by omega))

theorem follows_onward_cons (entered : first < start) :
    FollowsOnward p reader depth start after (.cons command body rest) := by
  intro before adjacent tour below
  subst adjacent
  by_cases joins : command.kind.continues = true
  · rw [next_from_member placed joins]
    exact follows_single context placed low ends onward block _ (.inr ⟨rfl, joins⟩) tour below
  · have omits : Reading.omitting? .onward (before + 1) command.kind = some .nothing := by
      rw [Reading.omitting?, if_neg joins]
    rw [next_from_over before (over_at_other placed (Bool.eq_false_iff.mpr joins)),
      context before (by omega) (by omega)]
    simp only [Forest.play, omits, play_nothing]
    rfl

end Cons

end Single

-- The induction is on the row; a body is a row of its own, in the context that its host makes.
theorem row_follows (row : Forest) (bodied : row.Bodied) (depth start : Nat) (placed : Forest.Placed p depth start row) :
    (∀ first last, p.GoesOn depth first last → first ≤ start → last + 1 = start + row.size →
      (row.isEmpty = false → FollowsAll p reader depth start last row) ∧
        (first < start → FollowsBeyond p reader depth start last row)) ∧
    (∀ first last after, p.LeavesTo depth first last after → first ≤ start → last + 1 = start + row.size →
      FollowsOnly p reader start after row ∧ (first < start → FollowsOnward p reader depth start after row)) := by
  induction row generalizing depth start with
  | nil =>
      refine ⟨fun first last _ _ ends => ⟨nofun, fun entered => ?_⟩,
        fun first last after context _ ends => ⟨nofun, fun entered => ?_⟩⟩
      · obtain rfl : start = last + 1 := ends.symm
        exact follows_beyond_nil last placed rfl
      · obtain rfl : start = last + 1 := ends.symm
        exact follows_onward_nil context last placed (by omega) rfl
  | cons command body rest bodyIh restIh =>
      obtain ⟨admits, _, bodyBodied, restBodied⟩ := bodied
      obtain ⟨inOrder, single⟩ := bodyIh bodyBodied (depth + 1) (start + 1) (Forest.placed_body placed)
      obtain ⟨restOrder, restSingle⟩ := restIh restBodied depth (start + 1 + body.size) (Forest.placed_rest placed)
      have block : FollowsBlock p reader depth start command body :=
        follows_block placed admits
          (fun filled context => (inOrder _ _ context (Nat.le_refl _) (by omega)).1 filled)
          (fun after context => (single _ _ after context (Nat.le_refl _) (by omega)).1)
      simp only [Forest.size]
      refine ⟨fun first last context low ends => ?_, fun first last after context low ends => ?_⟩
      · obtain ⟨all, beyond⟩ := restOrder first last context (by omega) (by omega)
        have rest_ := beyond (by omega)
        exact ⟨fun _ => follows_all_cons context placed low (by omega) all rest_ block,
          fun entered => follows_beyond_cons context placed low (by omega) all rest_ entered block⟩
      · obtain ⟨only, onward⟩ := restSingle first last after context (by omega) (by omega)
        have rest_ := onward (by omega)
        exact ⟨follows_only_cons context placed low (by omega) rest_ block only,
          fun entered => follows_onward_cons context placed low (by omega) rest_ block entered⟩

end Row

theorem top_follows (p : Playlist) (forest : Forest) (spells : forest.Spells p.commands.toList) (bodied : forest.Bodied)
    (reader : Reader) (draws : Draws) :
    p.walk reader.stores reader.limit 0 { trail := { draws := draws } } =
      forest.play reader .all 0 { trail := { draws := draws } } := by
  have all := Forest.size_of_spells p forest spells
  have finished (left index : Nat) (tour : Tour) (past : p.length ≤ index) : p.walk reader.stores left index tour = .ok tour := by
    cases left <;> simp [Playlist.walk, past]
  cases filled : forest.isEmpty with
  | true =>
      cases forest with
      | cons => cases filled
      | nil => exact finished _ 0 _ (Nat.le_of_eq all.symm)
  | false =>
      have nonzero := Forest.size_pos filled
      have row : FollowsAll p reader 0 0 (forest.size - 1) forest :=
        ((row_follows forest bodied 0 0 (Forest.placed_of_spells p forest spells)).1 0 (forest.size - 1)
          (fun _ _ _ _ => rfl) (Nat.le_refl _) (by omega)).1 filled
      have follows := row { trail := { draws := draws } } fun _ due => absurd due List.not_mem_nil
      rw [Playlist.resume, List.length_nil, Nat.sub_zero] at follows
      rw [follows]
      cases forest.play reader .all 0 { trail := { draws := draws } } with
      | error halt => rfl
      | ok done => exact finished _ _ done (by omega)

theorem walk_follows_blocks (script : String) (commands : List Command) (p : Playlist)
    (built : Playlist.build script commands = .ok p) :
    ∃ forest : Forest, forest.Spells commands ∧ forest.Grammatical ∧
      ∀ (stores : Nat → String → Option Value) (draws : Draws) (limit : Nat),
        p.walk stores limit 0 { trail := { draws := draws } } =
          forest.play ⟨stores, limit⟩ .all 0 { trail := { draws := draws } } := by
  obtain ⟨rfl, accepted⟩ := (Playlist.build_ok_iff script commands p).mp built
  have spells := Forest.of_commands_spells _ accepted
  have grammatical := (Forest.accepted_iff_grammatical _ _ spells).mp accepted
  exact ⟨_, spells, grammatical, fun stores draws limit => top_follows _ _ spells grammatical.2 ⟨stores, limit⟩ draws⟩

-- A random block and a chain in a loop, with a barrier in the chain.
def nestedStory : List Command :=
  [⟨0, {}, none, true, .loop (.var "awake")⟩, ⟨1, {}, none, true, .random []⟩, ⟨2, {}, none, true, .group⟩,
    ⟨3, {}, none, true, .waitInput⟩, ⟨2, {}, none, true, .waitInput⟩, ⟨1, {}, none, true, .branch (.var "alone")⟩,
    ⟨2, {}, none, true, .await⟩, ⟨3, {}, none, true, .waitInput⟩, ⟨1, {}, none, true, .otherwise⟩,
    ⟨2, {}, none, true, .waitInput⟩, ⟨1, {}, none, true, .endBranch⟩, ⟨0, {}, none, true, .stop⟩]

theorem walk_follows_nested_blocks :
    Playlist.build "story" nestedStory = .ok ⟨"story", nestedStory.toArray⟩ ∧
      ∃ forest : Forest, forest.Spells nestedStory ∧ forest.Grammatical ∧
        ∀ (stores : Nat → String → Option Value) (draws : Draws) (limit : Nat),
          Playlist.walk ⟨"story", nestedStory.toArray⟩ stores limit 0 { trail := { draws := draws } } =
            forest.play ⟨stores, limit⟩ .all 0 { trail := { draws := draws } } :=
  ⟨rfl, walk_follows_blocks "story" nestedStory ⟨"story", nestedStory.toArray⟩ rfl⟩

end Storyline
