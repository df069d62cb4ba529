import Storyline.Proofs.Tour

set_option autoImplicit false

/-!
Walking through one block. The host decides where the walk goes from each command of its body, so a body is played in order,
or one of its blocks is, and the end of the body leads to where the interpreter goes on after the block.
-/

namespace Storyline

namespace Playlist

-- The rest of a walk, from where navigation leads.
def resume (p : Playlist) (reader : Reader) (result : Except StructuralError Nat) (tour : Tour) : Except (Halt × Tour) Tour :=
  match result with
  | .ok next => p.walk reader.stores (reader.limit - tour.visits.length) next tour
  | .error cause => .error (.fault cause, tour)

theorem resume_visit {α : Type} (p : Playlist) (reader : Reader) (index : Nat) (tour : Tour) (inside : index < p.length)
    (act : (String → Option Value) → Trail → α × Trail) (choose : α → Except StructuralError Nat)
    (moves : ∀ lookup, p.move lookup index tour.trail = (choose (act lookup tour.trail).1, (act lookup tour.trail).2)) :
    p.resume reader (.ok index) tour =
      tour.visit reader index act >>= fun done => p.resume reader (choose done.1) done.2 := by
  rw [resume, Tour.visit]
  by_cases spent : reader.limit ≤ tour.visits.length
  · rw [if_pos spent, Nat.sub_eq_zero_of_le spent, walk, if_neg (by omega)]
    rfl
  · obtain ⟨left, rest⟩ : ∃ left, reader.limit - tour.visits.length = left + 1 := ⟨_, (Nat.sub_add_cancel (by omega)).symm⟩
    have fewer : reader.limit - (tour.visits.length + 1) = left := by omega
    rw [if_neg spent, rest, walk, if_neg (by omega), moves]
    cases next : choose (act (reader.stores tour.visits.length) tour.trail).1 with
    | ok next => simp [resume, next, fewer, bind, Except.bind]
    | error cause => simp [resume, next, bind, Except.bind]

end Playlist

/-! ### Picking a child -/

namespace Forest

def starts : Forest → Nat → List Nat
  | .nil, _ => []
  | .cons _ body rest, start => start :: rest.starts (start + 1 + body.size)

theorem starts_level (p : Playlist) (forest : Forest) (depth start : Nat) (lies : forest.Lies p depth start) :
    (List.range' start forest.size).filter (fun index => p.indentAt index = depth) = forest.starts start := by
  induction forest generalizing start with
  | nil => rfl
  | cons command body rest _ restIh =>
      obtain ⟨found, here, below, beside⟩ := lies
      have inner : (List.range' (start + 1) body.size).filter (fun index => p.indentAt index = depth) = [] := by
        refine List.filter_eq_nil_iff.mpr fun index member => ?_
        obtain ⟨low, high⟩ := List.mem_range'_1.mp member
        have deeper := (lies_depth below low high).2
        simp only [decide_eq_true_eq]
        omega
      have level : p.indentAt start = depth := by rw [p.indent_of start command found, here]
      have split : List.range' start (1 + body.size + rest.size) =
          start :: (List.range' (start + 1) body.size ++ List.range' (start + 1 + body.size) rest.size) := by
        rw [List.range'_append_1, Nat.add_assoc, Nat.add_comm 1, List.range'_succ]
      simp only [size, starts, split, List.filter_cons, level, decide_true, if_true, List.filter_append, inner,
        List.nil_append, restIh _ beside]

theorem placed_children {p : Playlist} {depth start : Nat} {command : Command} {body rest : Forest}
    (placed : Placed p depth start (.cons command body rest)) (hosts : command.kind.isHost = true) :
    p.children start = body.starts (start + 1) := by
  have size : p.bodyEnd start - start = body.size := by
    rw [Playlist.bodyEnd, placed_enters placed, hosts]
    cases body with
    | nil => simp [isEmpty, Forest.size]
    | cons next inside others =>
        have bound := placed_bound placed
        have closed := placed_closed placed
        have last := p.exit_index_eq (start + 1) (start + (Forest.cons next inside others).size) depth
          (by simp only [Forest.size]; omega) bound
          (fun index after upto => placed_deeper placed index (by omega) upto)
          (by simpa only [Nat.add_right_comm] using closed)
        simp only [isEmpty, Bool.not_false, Bool.and_true, if_true, placed_indent placed, last]
        omega
  rw [Playlist.children, size, placed_indent placed]
  exact starts_level p body (depth + 1) (start + 1) placed.lies.2.2.1

theorem pick_fold (p : Playlist) (lookup : String → Option Value) (weights : List Float32) (children : Forest)
    (depth start position : Nat) (best : Playlist.Pick) (trail : Trail) (lies : children.Lies p depth start) :
    let picked := ((children.starts start).zipIdx position).foldl (p.consider lookup weights) (best, trail)
    let scored := children.scores lookup weights start position trail
    picked.1.best = winner best scored.1 ∧ picked.2 = scored.2 := by
  induction children generalizing start position best trail with
  | nil => exact ⟨rfl, rfl⟩
  | cons command body rest _ restIh =>
      obtain ⟨found, _, _, beside⟩ := lies
      simp only [starts, List.zipIdx_cons, List.foldl_cons, scores]
      rcases guarded : trail.passesGuard lookup command with ⟨passes, guardedTrail⟩
      cases passes with
      | false =>
          simp only [Playlist.consider, found, guarded, Bool.false_eq_true, if_false]
          exact restIh _ _ best guardedTrail beside
      | true =>
          simp only [Playlist.consider, found, guarded, if_true, winner]
          by_cases better : best.score < guardedTrail.draw.1 * Playlist.weightAt weights position
          · simp only [if_pos better]
            exact restIh _ _ _ guardedTrail.draw.2 beside
          · simp only [if_neg better]
            exact restIh _ _ best guardedTrail.draw.2 beside

theorem placed_pick {p : Playlist} {depth start : Nat} {command : Command} {body rest : Forest}
    (placed : Placed p depth start (.cons command body rest)) (hosts : command.kind.isHost = true)
    (lookup : String → Option Value) (weights : List Float32) (trail : Trail) :
    p.pick lookup weights start trail = body.pick lookup weights (start + 1) trail := by
  obtain ⟨best, rest⟩ := pick_fold p lookup weights body (depth + 1) (start + 1) 0 {} trail placed.lies.2.2.1
  rw [Playlist.pick, placed_children placed hosts, pick]
  exact Prod.ext best rest

end Forest

/-! ### Leaving the blocks of a row -/

namespace Playlist

-- In a row that is played in order, the end of a block leads to the next one.
def GoesOn (p : Playlist) (depth first last : Nat) : Prop :=
  ∀ index, first ≤ index → index < last → p.indentAt (index + 1) = depth → p.leave depth index = .ok (index + 1)

-- In a row of which one block is played, every end leads to the same place.
def LeavesTo (p : Playlist) (depth first last : Nat) (after : Except StructuralError Nat) : Prop :=
  ∀ index, first ≤ index → index ≤ last → p.leave depth index = after

-- Where a chain goes from the end of a member that declined its body.
def nextFrom (p : Playlist) (depth last : Nat) : Except StructuralError Nat :=
  match p.command? (last + 1) with
  | some next => if next.indent = depth && next.kind.continues then .ok (last + 1) else p.leave depth last
  | none => p.leave depth last

-- Where a block leads that ends at `last`.
@[simp] def afterBlock (p : Playlist) (depth start last : Nat) : Outcome → Except StructuralError Nat
  | .passed => p.leave depth last
  | .ran => p.leave depth (p.chainEnd start)
  | .declined => p.nextMember start

end Playlist

theorem returns_policy (kind : Kind) (returns : kind.returns = true) : kind.policy = .repeated := by
  cases kind with
  | await => rfl
  | transition millis => rfl
  | _ => cases returns

namespace Forest

section Block

variable {p : Playlist} {depth start : Nat} {command : Command} {body rest : Forest}

theorem size_pos (nonempty : body.isEmpty = false) : 0 < body.size := by
  cases body with
  | nil => cases nonempty
  | cons command body rest => simp only [size]; omega

variable (placed : Placed p depth start (.cons command body rest))
include placed

theorem placed_leave (hosts : command.kind.isHost = true)
    (index : Nat) (after : start < index) (upto : index ≤ start + body.size) :
    p.leave (depth + 1) index = p.leaveBy start depth index command.kind.policy :=
  p.leave_succ depth index start command.kind (placed_host_at placed hosts index after upto)
    (p.kind_of start command placed.lies.1)

theorem placed_exits (index : Nat) (after : start < index)
    (upto : index ≤ start + body.size) : p.exits index depth = decide (p.indentAt (index + 1) ≤ depth) :=
  p.exits_nested index depth (Nat.lt_of_le_of_lt (Nat.zero_le _) (placed_deeper placed index after upto))

theorem placed_goes_on (hosts : command.kind.isHost = true)
    (ordered : command.kind.policy = .chained ∨ command.kind.policy = .repeated ∨ command.kind.policy = .plain) :
    p.GoesOn (depth + 1) (start + 1) (start + body.size) := by
  intro index first last level
  have stays : p.exits index depth = false := by
    rw [placed_exits placed index first (Nat.le_of_lt last), level]
    exact decide_eq_false (by omega)
  rw [placed_leave placed hosts index first (Nat.le_of_lt last)]
  rcases ordered with policy | policy | policy <;> simp [policy, Playlist.leaveBy, stays]

theorem placed_leaves_to (hosts : command.kind.isHost = true)
    (policy : command.kind.policy = .whole) :
    p.LeavesTo (depth + 1) (start + 1) (start + body.size) (p.leave depth (start + body.size)) := by
  intro index first last
  rw [placed_leave placed hosts index first last, policy, Playlist.leaveBy, placed_exit_index placed]

theorem placed_leave_last (hosts : command.kind.isHost = true)
    (nonempty : body.isEmpty = false) :
    p.leave (depth + 1) (start + body.size) = p.leaveBy start depth (start + body.size) command.kind.policy ∧
      p.exits (start + body.size) depth = true := by
  have nonzero := size_pos nonempty
  have closed := placed_closed placed
  refine ⟨placed_leave placed hosts _ (by omega) (Nat.le_refl _), ?_⟩
  rw [placed_exits placed _ (by omega) (Nat.le_refl _), Nat.add_right_comm]
  exact decide_eq_true closed

theorem placed_skip : p.skip start (p.indentAt start) = p.leave depth (start + body.size) := by
  rw [Playlist.skip, placed_indent placed, placed_exit_index placed]

theorem placed_next_member : p.nextMember start = p.nextFrom depth (start + body.size) := by
  have same : p.nextMember start = p.nextFrom (p.indentAt start) (p.exitIndex start (p.indentAt start)) := rfl
  rw [same, placed_indent placed, placed_exit_index placed]

theorem placed_chain_end : p.chainEnd start = p.chainEndFrom depth p.length (start + body.size) := by
  rw [Playlist.chainEnd, placed_indent placed, placed_exit_index placed]

theorem placed_move (lookup : String → Option Value)
    (trail : Trail) :
    p.move lookup start trail =
      if command.kind.isHost && !body.isEmpty then p.enter lookup start trail else (p.leave depth start, trail) := by
  have bound := p.command_bound start command placed.lies.1
  rw [Playlist.move, if_neg (by omega), placed_enters placed, placed_indent placed]

end Block

end Forest

/-! ### Simulating one block -/

section Simulation

variable (p : Playlist) (reader : Reader)

-- A row that is played in order, up to its end at `last`.
def FollowsAll (depth start last : Nat) (row : Forest) : Prop :=
  ∀ tour : Tour, tour.Below start →
    p.resume reader (.ok start) tour = row.play reader .all start tour >>= fun done => p.resume reader (p.leave depth last) done

-- A row of which one block is played.
def FollowsOnly (start : Nat) (after : Except StructuralError Nat) (row : Forest) : Prop :=
  ∀ child ∈ row.starts start, ∀ tour : Tour, tour.Below start →
    p.resume reader (.ok child) tour = row.play reader (.only child) start tour >>= fun done => p.resume reader after done

def FollowsBlock (depth start : Nat) (command : Command) (body : Forest) : Prop :=
  ∀ tour : Tour, tour.Below start →
    p.resume reader (.ok start) tour =
      command.kind.play reader body start (fun part => body.play reader part (start + 1)) tour >>= fun done =>
        p.resume reader (p.afterBlock depth start (start + body.size) done.1) done.2

variable {p reader} {depth start : Nat} {command : Command} {body rest : Forest}
  (placed : Forest.Placed p depth start (.cons command body rest))

include placed

theorem follows_leaf (admits : command.kind.bodyRule.Admits body) (empty : body.isEmpty = true) :
    FollowsBlock p reader depth start command body := by
  intro tour _
  obtain rfl : body = .nil := by
    cases body with
    | nil => rfl
    | cons => cases empty
  have optional : command.kind.requiresBody = false := by
    have filled := ((admits_iff command.kind .nil).mp admits).1
    exact Bool.eq_false_iff.mpr fun required => absurd (filled required) (by simp [Forest.isEmpty])
  rw [p.resume_visit reader start tour (p.command_bound start command placed.lies.1) (fun _ trail => ((), trail))
    (fun _ => p.leave depth start) (fun lookup => by simp [Forest.placed_move placed, Forest.isEmpty])]
  cases command.kind.manner with
  | branch condition tests => rcases tests with kind | kind <;> rw [kind] at optional <;> cases optional
  | loop condition kind => rw [kind] at optional; cases optional
  | random weights kind => rw [kind] at optional; cases optional
  | delay millis kind => rw [kind] at optional; cases optional
  | otherwise kind => rw [kind] at optional; cases optional
  | returning returns =>
      rw [play_alone _ _ _ _ _ _ returns empty, bind_assoc]
      rfl
  | plain plain =>
      rw [play_plain _ _ _ _ _ _ plain, bind_assoc]
      rfl

section Host

variable (hosts : command.kind.isHost = true) (nonempty : body.isEmpty = false)

include hosts nonempty

theorem resume_enter {α : Type} (tour : Tour) (act : (String → Option Value) → Trail → α × Trail)
    (choose : α → Except StructuralError Nat)
    (enters : ∀ lookup, p.enter lookup start tour.trail = (choose (act lookup tour.trail).1, (act lookup tour.trail).2)) :
    p.resume reader (.ok start) tour =
      tour.visit reader start act >>= fun done => p.resume reader (choose done.1) done.2 :=
  p.resume_visit reader start tour (p.command_bound start command placed.lies.1) act choose fun lookup => by
    rw [Forest.placed_move placed, hosts, nonempty]
    exact enters lookup

theorem follows_random (weights : List Float32) (kind : command.kind = .random weights)
    (inner : FollowsOnly p reader (start + 1) (p.leave depth (start + body.size)) body) :
    FollowsBlock p reader depth start command body := by
  intro tour below
  have known : p.kind? start = some (.random weights) := by rw [p.kind_of start command placed.lies.1, kind]
  rw [resume_enter placed hosts nonempty tour (fun lookup trail => body.pick lookup weights (start + 1) trail)
    (fun picked => picked.elim (p.skip start (p.indentAt start)) .ok)
    (fun lookup => by rw [p.enter_random lookup start tour.trail weights known, Forest.placed_pick placed hosts]),
    kind, Kind.play, bind_assoc]
  apply bind_same
  intro picked visited
  have kept := (visit_kept visited
    (fun lookup trail => scores_raised lookup weights body (start + 1) 0 trail)).1
  cases chosen : picked.1 with
  | none =>
      rw [Forest.placed_skip placed]
      rfl
  | some child =>
      have member : child ∈ body.starts (start + 1) := by
        have found : (p.pick (reader.stores tour.visits.length) weights start tour.trail).1 = some child := by
          rw [Forest.placed_pick placed hosts, ← chosen, visit_done visited]
        rw [← Forest.placed_children placed hosts]
        exact p.pick_child _ weights start tour.trail child found
      rw [Option.elim_some, inner child member picked.2 ((kept.below below).mono (Nat.le_succ start))]
      simp

theorem follows_delay (millis : UInt64) (kind : command.kind = .delay millis) :
    FollowsBlock p reader depth start command body := by
  intro tour _
  have known : p.kind? start = some (.delay millis) := by rw [p.kind_of start command placed.lies.1, kind]
  rw [resume_enter placed hosts nonempty tour (fun _ trail => ((), trail)) (fun _ => p.skip start (p.indentAt start))
    (fun lookup => p.enter_delay lookup start tour.trail millis known), Forest.placed_skip placed,
    kind]
  simp [Kind.play]

variable (inner : FollowsAll p reader (depth + 1) (start + 1) (start + body.size) body)

include inner

theorem follows_branch (condition : Expr)
    (tests : command.kind = .branch condition ∨ command.kind = .elseBranch condition) :
    FollowsBlock p reader depth start command body := by
  intro tour below
  have policy : command.kind.policy = .chained := by rcases tests with kind | kind <;> rw [kind] <;> rfl
  have known : p.kind? start = some (.branch condition) ∨ p.kind? start = some (.elseBranch condition) := by
    rw [p.kind_of start command placed.lies.1]
    simpa using tests
  rw [resume_enter placed hosts nonempty tour (fun lookup trail => trail.condition lookup condition)
    (fun holds => if holds then .ok (start + 1) else p.nextMember start)
    (fun lookup => p.enter_branch lookup start tour.trail condition known),
    play_branch _ _ _ _ _ _ condition tests, bind_assoc]
  apply bind_same
  intro tested visited
  have kept := (visit_kept visited (by simp)).1
  by_cases holds : tested.1 = true
  · obtain ⟨leaves, exits⟩ := Forest.placed_leave_last placed hosts nonempty
    rw [if_pos holds, if_pos holds, inner tested.2 ((kept.below below).mono (Nat.le_succ _)), leaves]
    simp [policy, Playlist.leaveBy, exits]
  · rw [if_neg holds, if_neg holds]
    simp

-- Every round makes a visit, so the rounds that are left suffice for the visits that are left.
theorem follows_rounds (condition : Expr) (kind : command.kind = .loop condition)
    (left : Nat) (tour : Tour)
    (below : tour.Below start) (enough : reader.limit ≤ left + tour.visits.length) :
    p.resume reader (.ok start) tour =
      tour.rounds reader start condition (body.play reader .all (start + 1)) left >>= fun done =>
        p.resume reader (p.leave depth (start + body.size)) done := by
  have known : p.kind? start = some (.loop condition) := by rw [p.kind_of start command placed.lies.1, kind]
  obtain ⟨leaves, exits⟩ := Forest.placed_leave_last placed hosts nonempty
  have again : p.leave (depth + 1) (start + body.size) = .ok start := by
    simp [leaves, kind, Kind.policy, Playlist.leaveBy, exits]
  have tests (met : Tour) : p.resume reader (.ok start) met = _ := resume_enter placed hosts nonempty met
    (fun lookup trail => trail.condition lookup condition)
    (fun holds => if holds then .ok (start + 1) else p.skip start (p.indentAt start))
    (fun lookup => p.enter_loop lookup start met.trail condition known)
  induction left generalizing tour with
  | zero =>
      rw [tests, Tour.visit, if_pos (by omega)]
      rfl
  | succ left ih =>
      rw [tests, Tour.rounds, bind_assoc]
      apply bind_same
      intro tested visited
      obtain ⟨kept, longer⟩ := visit_kept visited (by simp)
      by_cases holds : tested.1 = true
      · have nested := (kept.below below).mono (Nat.le_succ start)
        rw [if_pos holds, if_pos holds, inner tested.2 nested, again, bind_assoc]
        apply bind_same
        intro played ran
        have inside := play_kept reader body .all (start + 1) tested.2 played nested ran
        have more := inside.longer
        exact ih played (inside.below (kept.below below)) (by omega)
      · rw [if_neg holds, if_neg holds, Forest.placed_skip placed]
        rfl

theorem follows_loop (condition : Expr) (kind : command.kind = .loop condition) :
    FollowsBlock p reader depth start command body := by
  intro tour below
  rw [follows_rounds placed hosts nonempty inner condition kind reader.limit tour below (Nat.le_add_right _ _),
    kind]
  simp [Kind.play]

theorem resume_through (plain : command.kind.policy = .plain ∨ command.kind = .otherwise) (tour : Tour)
    (below : tour.Below start) :
    p.resume reader (.ok start) tour = (do
      let passed ← tour.visit reader start fun _ trail => ((), trail)
      let played ← body.play reader .all (start + 1) passed.2
      p.resume reader (p.leave (depth + 1) (start + body.size)) played) := by
  rw [resume_enter placed hosts nonempty tour (fun _ trail => ((), trail)) (fun _ => .ok (start + 1))
    (fun lookup => p.enter_plain lookup start tour.trail command.kind (p.kind_of start command placed.lies.1) plain)]
  apply bind_same
  intro passed visited
  have kept := (visit_kept visited (fun _ _ => rfl)).1
  exact inner passed.2 ((kept.below below).mono (Nat.le_succ start))

theorem follows_plain (policy : command.kind.policy = .plain) : FollowsBlock p reader depth start command body := by
  intro tour below
  obtain ⟨leaves, exits⟩ := Forest.placed_leave_last placed hosts nonempty
  rw [resume_through placed hosts nonempty inner (.inl policy) tour below, play_plain _ _ _ _ _ _ policy, leaves, policy,
    Playlist.leaveBy, if_pos exits]
  simp

theorem follows_otherwise (kind : command.kind = .otherwise) : FollowsBlock p reader depth start command body := by
  intro tour below
  obtain ⟨leaves, exits⟩ := Forest.placed_leave_last placed hosts nonempty
  rw [resume_through placed hosts nonempty inner (.inr kind) tour below, leaves, kind, Kind.policy, Playlist.leaveBy,
    if_pos exits]
  simp [Kind.play]

-- The mark that the first visit sets is still there when the body is over.
theorem follows_returning (returns : command.kind.returns = true) : FollowsBlock p reader depth start command body := by
  intro tour below
  have entered (met : Tour) (lookup : String → Option Value) :=
    p.enter_returning lookup start met.trail command.kind (p.kind_of start command placed.lies.1) returns
  obtain ⟨leaves, exits⟩ := Forest.placed_leave_last placed hosts nonempty
  have again : p.leave (depth + 1) (start + body.size) = .ok start := by
    simp [leaves, returns_policy _ returns, Playlist.leaveBy, exits]
  rw [resume_enter placed hosts nonempty tour (fun _ trail => ((), trail.raise start)) (fun _ => .ok (start + 1))
    (fun lookup => by rw [entered tour lookup, if_neg (by simp [tour.trail.not_raised start below])]),
    play_returning _ _ _ _ _ _ returns nonempty, bind_assoc]
  apply bind_same
  intro first visited
  have nested := raised_below reader start tour first below visited
  rw [inner first.2 nested, again, bind_assoc]
  apply bind_same
  intro played ran
  have marked : played.trail.isRaised start = true := by
    rw [Trail.isRaised, (play_kept reader body .all (start + 1) first.2 played nested ran).raised,
      visit_done visited]
    simp [Trail.raise]
  rw [resume_enter placed hosts nonempty played (fun _ trail => ((), trail.lower start))
    (fun _ => p.skip start (p.indentAt start)) (fun lookup => by rw [entered played lookup, if_pos marked]),
    Forest.placed_skip placed, bind_assoc]
  rfl

end Host

theorem follows_block (admits : command.kind.bodyRule.Admits body)
    (inner : body.isEmpty = false → p.GoesOn (depth + 1) (start + 1) (start + body.size) →
      FollowsAll p reader (depth + 1) (start + 1) (start + body.size) body)
    (alone : ∀ after, p.LeavesTo (depth + 1) (start + 1) (start + body.size) after →
      FollowsOnly p reader (start + 1) after body) :
    FollowsBlock p reader depth start command body := by
  cases filled : body.isEmpty with
  | true => exact follows_leaf placed admits filled
  | false =>
      have hosts := ((admits_iff command.kind body).mp admits).2 filled
      have ordered (policy : command.kind.policy = .chained ∨ command.kind.policy = .repeated ∨ command.kind.policy = .plain) :=
        inner filled (Forest.placed_goes_on placed hosts policy)
      cases command.kind.manner with
      | branch condition tests =>
          exact follows_branch placed hosts filled
            (ordered (.inl (by rcases tests with kind | kind <;> rw [kind] <;> rfl))) condition tests
      | loop condition kind =>
          exact follows_loop placed hosts filled (ordered (.inr (.inl (by rw [kind]; rfl)))) condition kind
      | random weights kind =>
          exact follows_random placed hosts filled weights kind
            (alone _ (Forest.placed_leaves_to placed hosts (by rw [kind]; rfl)))
      | delay millis kind => exact follows_delay placed hosts filled millis kind
      | returning returns =>
          exact follows_returning placed hosts filled (ordered (.inr (.inl (returns_policy _ returns)))) returns
      | otherwise kind => exact follows_otherwise placed hosts filled (ordered (.inl (by rw [kind]; rfl))) kind
      | plain policy => exact follows_plain placed hosts filled (ordered (.inr (.inr policy))) policy

end Simulation

end Storyline
