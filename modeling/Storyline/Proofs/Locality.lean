import Storyline.Proofs.ReturnVisits

set_option autoImplicit false

/-!
What a step along a playlist looks at and what it changes. A host that is entered may look at variables, draw and turn its flag.
A host whose block is left does nothing of the kind, at whatever depth, because it stands before everything in its block and
is never taken for the command that was played. So a step is a matter of its own command alone.
-/

namespace Storyline

namespace Playlist

/-! ### Asking the hosts -/

-- The next member of a chain, or the way out of the block that the chain is in.
def nextBy (p : Playlist) (out : Nat → Trail → Except StructuralError Nat × Trail) (member : Nat) (trail : Trail) :
    Except StructuralError Nat × Trail :=
  let level := p.indentAt member
  let last := p.exitIndex member level
  if (p.command? (last + 1)).any fun next => next.indent = level && next.kind.continues then (.ok (last + 1), trail)
  else out last trail

-- What a host answers when it is asked for the way on, given how its own block is left for the hosts around it. Whether the
-- block is entered the host finds out by itself: it is what was played.
def respond (p : Playlist) (lookup : String → Option Value) (out : Nat → Trail → Except StructuralError Nat × Trail)
    (host played : Nat) (trail : Trail) : Except StructuralError Nat × Trail :=
  let level := p.indentAt host
  let last := p.exitIndex host level
  match p.kind? host with
  | none => (.error (.hostNotFound (p.spotAt played)), trail)
  | some kind =>
    if played = host then
      match kind with
      | .branch condition | .elseBranch condition =>
        let tested := trail.condition lookup condition
        if tested.1 then (.ok (host + 1), tested.2) else p.nextBy out host tested.2
      | .loop condition =>
        let tested := trail.condition lookup condition
        if tested.1 then (.ok (host + 1), tested.2) else out last tested.2
      | .random weights =>
        let picked := p.pick lookup weights host trail
        picked.1.elim (out last picked.2) fun child => (.ok child, picked.2)
      | .delay _ => out last trail
      | .await | .transition _ =>
        if trail.isRaised host then out last (trail.lower host) else (.ok (host + 1), trail.raise host)
      | _ => (.ok (host + 1), trail)
    else
      match kind.policy with
      | .whole => out last trail
      | .refused => (.error (.deferredNavigation (p.spotAt played)), trail)
      | .chained => if p.exits played level then out (p.chainEnd host) trail else (.ok (played + 1), trail)
      | .repeated => (.ok (if p.exits played level then host else played + 1), trail)
      | .plain => if p.exits played level then out played trail else (.ok (played + 1), trail)

-- The way on from the end of a block: the host around it is asked, with the same variables, draws and flags at hand.
def ask (p : Playlist) (lookup : String → Option Value) : Nat → Nat → Trail → Except StructuralError Nat × Trail
  | 0, played, trail => (.ok (played + 1), trail)
  | level + 1, played, trail =>
    match p.hostAt played level with
    | .error fault => (.error fault, trail)
    | .ok host => p.respond lookup (fun last trail => ask p lookup level last trail) host played trail

def askedMove (p : Playlist) (lookup : String → Option Value) (index : Nat) (trail : Trail) :
    Except StructuralError Nat × Trail :=
  if p.length ≤ index then (.ok (index + 1), trail)
  else if p.enters index then p.respond lookup (p.ask lookup (p.indentAt index)) index index trail
  else p.ask lookup (p.indentAt index) index trail

theorem host_at_before (p : Playlist) (played level host : Nat) (hosted : p.hostAt played level = .ok host) :
    host < played ∧ p.indentAt host = level ∧ p.isHost host = true := by
  have below (bound : Nat) (found : p.shallower? level bound = some host) : host < bound := by
    induction bound with
    | zero => cases found
    | succ bound ih =>
        rw [shallower?] at found
        split at found
        · exact Option.some.inj found ▸ Nat.lt_succ_self _
        · exact Nat.lt_succ_of_lt (ih found)
  cases found : p.hostAt? played level with
  | none => simp [hostAt, found] at hosted
  | some other =>
      obtain rfl : other = host := by simpa [hostAt, found] using hosted
      obtain ⟨scanned, fits⟩ := Option.filter_eq_some_iff.mp found
      rw [Bool.and_eq_true, decide_eq_true_eq] at fits
      exact ⟨Nat.lt_of_lt_of_le (below _ scanned) (Nat.min_le_left _ _), fits⟩

-- The induction is on the level. A host that is asked stands before what was played, so it never takes its block for entered.
theorem ask_eq_leave (p : Playlist) (lookup : String → Option Value) (level played : Nat) (trail : Trail) :
    p.ask lookup level played trail = (p.leave level played, trail) := by
  induction level generalizing played trail with
  | zero => rfl
  | succ level ih =>
      rw [ask]
      cases hosted : p.hostAt played level with
      | error fault => simp only [leave, hosted]
      | ok host =>
          obtain ⟨before, depth, hosts⟩ := p.host_at_before played level host hosted
          obtain ⟨command, found⟩ := p.command_found host (p.host_bound host hosts)
          have known := p.kind_of host command found
          rw [leave_succ p level played host command.kind hosted known]
          simp only [ih, respond, known, depth, if_neg (Nat.ne_of_gt before)]
          cases command.kind.policy <;> simp only [leaveBy] <;> split <;> rfl

theorem next_by_eq (p : Playlist) (member : Nat) (trail : Trail) :
    p.nextBy (fun last trail => (p.leave (p.indentAt member) last, trail)) member trail = (p.nextMember member, trail) := by
  simp only [nextBy, nextMember]
  cases p.command? (p.exitIndex member (p.indentAt member) + 1) with
  | none => rfl
  | some next =>
      simp only [Option.any_some]
      split <;> rfl

theorem respond_eq_enter (p : Playlist) (lookup : String → Option Value) (host : Nat) (trail : Trail) (kind : Kind)
    (known : p.kind? host = some kind) :
    p.respond lookup (fun last trail => (p.leave (p.indentAt host) last, trail)) host host trail =
      p.enter lookup host trail := by
  simp only [respond, known, if_true, next_by_eq]
  cases kind with
  | branch condition =>
      simp only [enter_branch p lookup host trail condition (.inl known)]
      split <;> rfl
  | elseBranch condition =>
      simp only [enter_branch p lookup host trail condition (.inr known)]
      split <;> rfl
  | loop condition =>
      simp only [enter_loop p lookup host trail condition known]
      split <;> rfl
  | random weights =>
      simp only [enter_random p lookup host trail weights known]
      cases (p.pick lookup weights host trail).1 <;> rfl
  | delay millis => simp only [enter_delay p lookup host trail millis known, skip]
  | await => simp only [enter_returning p lookup host trail _ known rfl, skip]
  | transition millis => simp only [enter_returning p lookup host trail _ known rfl, skip]
  | otherwise => simp only [enter_plain p lookup host trail _ known (.inr rfl)]
  | _ => simp only [enter_plain p lookup host trail _ known (.inl rfl)]

theorem asked_move_eq (p : Playlist) (lookup : String → Option Value) (index : Nat) (trail : Trail) :
    p.askedMove lookup index trail = p.move lookup index trail := by
  simp only [askedMove, move, funext fun last => funext fun trail => ask_eq_leave p lookup (p.indentAt index) last trail]
  by_cases past : p.length ≤ index
  · rw [if_pos past, if_pos past]
  · obtain ⟨command, found⟩ := p.command_found index (Nat.lt_of_not_le past)
    rw [respond_eq_enter p lookup index trail command.kind (p.kind_of index command found)]

/-! ### What is looked at -/

end Playlist

-- What a condition counts for; one that has no value counts for nothing.
def Expr.grants (lookup : String → Option Value) (expr : Expr) : Bool := (expr.holds lookup).toOption.getD false

theorem Trail.condition_grants (trail : Trail) (lookup : String → Option Value) (expr : Expr) :
    (trail.condition lookup expr).1 = expr.grants lookup ∧ (trail.condition lookup expr).2.draws = trail.draws := by
  unfold condition Expr.grants
  cases expr.holds lookup <;> exact ⟨rfl, rfl⟩

namespace Playlist

-- Whether there is a command and its guard holds, if it has one.
def grantsAt (p : Playlist) (lookup : String → Option Value) (index : Nat) : Bool :=
  (p.command? index).any fun command => command.guard.all (Expr.grants lookup)

-- The conditions that a step from the command may look at.
def asked (p : Playlist) (index : Nat) : List Expr :=
  match p.kind? index with
  | some (.branch condition) | some (.elseBranch condition) | some (.loop condition) => [condition]
  | some (.random _) => (p.children index).filterMap fun child => (p.command? child).bind Command.guard
  | _ => []

-- The children whose guards hold, in order, each with the next draw.
def lots (p : Playlist) (lookup : String → Option Value) (weights : List Float32) :
    List (Nat × Nat) → Draws → List (Nat × Float32)
  | [], _ => []
  | child :: children, draws =>
    if p.grantsAt lookup child.1 then
      (child.1, draws.next.1 * weightAt weights child.2) :: lots p lookup weights children draws.next.2
    else lots p lookup weights children draws

section Lots

variable (p : Playlist) (lookup : String → Option Value) (weights : List Float32)

theorem lots_children (children : List (Nat × Nat)) (draws : Draws) :
    (p.lots lookup weights children draws).map Prod.fst = (children.map Prod.fst).filter (p.grantsAt lookup) := by
  induction children generalizing draws with
  | nil => rfl
  | cons child children ih =>
      rw [lots, List.map_cons, List.filter_cons]
      split
      · rw [List.map_cons, ih]
      · exact ih draws

theorem lots_agree (other : String → Option Value) (children : List (Nat × Nat)) (draws : Draws)
    (agree : ∀ child ∈ children, p.grantsAt other child.1 = p.grantsAt lookup child.1) :
    p.lots other weights children draws = p.lots lookup weights children draws := by
  induction children generalizing draws with
  | nil => rfl
  | cons child children ih =>
      have rest (draws : Draws) := ih draws fun later member => agree later (List.mem_cons_of_mem _ member)
      rw [lots, lots, agree child List.mem_cons_self, rest, rest]

theorem fold_lots (children : List (Nat × Nat)) (best : Pick) (trail : Trail) :
    let folded := children.foldl (p.consider lookup weights) (best, trail)
    let drawn := p.lots lookup weights children trail.draws
    folded.1.best = Forest.winner best drawn ∧
      folded.2.draws = { trail.draws with taken := trail.draws.taken + drawn.length } := by
  induction children generalizing best trail with
  | nil => exact ⟨rfl, rfl⟩
  | cons child children ih =>
      simp only [List.foldl_cons, lots]
      cases found : p.command? child.1 with
      | none =>
          simp only [consider, found, grantsAt, Option.any_none, Bool.false_eq_true, if_false]
          exact ih best trail
      | some command =>
          have guarded : (trail.passesGuard lookup command).1 = p.grantsAt lookup child.1 ∧
              (trail.passesGuard lookup command).2.draws = trail.draws := by
            simp only [grantsAt, found, Option.any_some, Trail.passesGuard]
            cases command.guard with
            | none => exact ⟨rfl, rfl⟩
            | some guard => exact trail.condition_grants lookup guard
          rcases judged : trail.passesGuard lookup command with ⟨passes, after⟩
          obtain ⟨granted, untouched⟩ : passes = p.grantsAt lookup child.1 ∧ after.draws = trail.draws := by
            simpa only [judged] using guarded
          simp only [consider, found, judged, ← granted, ← untouched]
          cases passes with
          | false => exact ih best after
          | true =>
              have drawn : after.draws.next = (after.draw.1, after.draw.2.draws) := rfl
              have count (more : Nat) : after.draws.taken + (more + 1) = after.draw.2.draws.taken + more := by
                simp only [Trail.draw, Draws.next]
                omega
              simp only [if_true, drawn, Forest.winner, List.length_cons, count]
              by_cases better : best.score < after.draw.1 * weightAt weights child.2
              · simp only [if_pos better]
                exact ih _ after.draw.2
              · simp only [if_neg better]
                exact ih best after.draw.2

end Lots

theorem pick_lots (p : Playlist) (lookup : String → Option Value) (weights : List Float32) (host : Nat) (trail : Trail) :
    (p.pick lookup weights host trail).1 =
        Forest.winner {} (p.lots lookup weights (p.children host).zipIdx trail.draws) ∧
      (p.pick lookup weights host trail).2.draws =
        { trail.draws with taken := trail.draws.taken + ((p.children host).filter (p.grantsAt lookup)).length } := by
  have drawn := lots_children p lookup weights (p.children host).zipIdx trail.draws
  rw [List.zipIdx_map_fst] at drawn
  obtain ⟨best, after⟩ := fold_lots p lookup weights (p.children host).zipIdx {} trail
  rw [← drawn, List.length_map]
  exact ⟨best, after⟩

theorem enter_draws (p : Playlist) (lookup : String → Option Value) (host : Nat) (trail : Trail) (kind : Kind)
    (known : p.kind? host = some kind) (settled : ∀ weights, kind ≠ .random weights) :
    (p.enter lookup host trail).2.draws = trail.draws := by
  cases kind with
  | branch condition => rw [enter_branch p lookup host trail condition (.inl known), (trail.condition_grants lookup _).2]
  | elseBranch condition => rw [enter_branch p lookup host trail condition (.inr known), (trail.condition_grants lookup _).2]
  | loop condition => rw [enter_loop p lookup host trail condition known, (trail.condition_grants lookup _).2]
  | random weights => exact absurd rfl (settled weights)
  | delay millis => rw [enter_delay p lookup host trail millis known]
  | await =>
      rw [enter_returning p lookup host trail _ known rfl]
      split <;> rfl
  | transition millis =>
      rw [enter_returning p lookup host trail _ known rfl]
      split <;> rfl
  | otherwise => rw [enter_plain p lookup host trail _ known (.inr rfl)]
  | _ => rw [enter_plain p lookup host trail _ known (.inl rfl)]

theorem grants_agree (p : Playlist) (lookup other : String → Option Value) (index : Nat) (weights : List Float32)
    (known : p.kind? index = some (.random weights)) (agree : ∀ expr ∈ p.asked index, expr.grants other = expr.grants lookup)
    (child : Nat) (listed : child ∈ p.children index) : p.grantsAt other child = p.grantsAt lookup child := by
  unfold grantsAt
  cases found : p.command? child with
  | none => rfl
  | some command =>
      cases guarded : command.guard with
      | none => simp only [Option.any_some, guarded, Option.all_none]
      | some guard =>
          simp only [Option.any_some, guarded, Option.all_some]
          refine agree guard ?_
          simp only [asked, known, List.mem_filterMap]
          exact ⟨child, listed, by rw [found, Option.bind_some, guarded]⟩

section Agree

variable (p : Playlist) (lookup other : String → Option Value) (index : Nat) (trail : Trail)

theorem enter_agrees (kind : Kind) (known : p.kind? index = some kind)
    (agree : ∀ expr ∈ p.asked index, expr.grants other = expr.grants lookup) :
    (p.enter other index trail).1 = (p.enter lookup index trail).1 ∧
      (p.enter other index trail).2.raised = (p.enter lookup index trail).2.raised ∧
      (p.enter other index trail).2.draws = (p.enter lookup index trail).2.draws := by
  have tested (condition : Expr) (looks : condition ∈ p.asked index) :
      (trail.condition other condition).1 = (trail.condition lookup condition).1 := by
    rw [(trail.condition_grants other condition).1, agree condition looks, (trail.condition_grants lookup condition).1]
  cases kind with
  | branch condition =>
      simp only [enter_branch p _ index trail condition (.inl known), tested condition (by simp [asked, known]),
        Trail.condition_raised, Trail.condition_grants, and_self]
  | elseBranch condition =>
      simp only [enter_branch p _ index trail condition (.inr known), tested condition (by simp [asked, known]),
        Trail.condition_raised, Trail.condition_grants, and_self]
  | loop condition =>
      simp only [enter_loop p _ index trail condition known, tested condition (by simp [asked, known]),
        Trail.condition_raised, Trail.condition_grants, and_self]
  | random weights =>
      have same := grants_agree p lookup other index weights known agree
      have drawn := lots_agree p lookup weights other (p.children index).zipIdx trail.draws
        fun child member => same child.1 (List.fst_mem_of_mem_zipIdx member)
      simp only [enter_random p _ index trail weights known, pick_raised, pick_lots, drawn, List.filter_congr same, and_self]
  | _ => simp only [enter, known, and_self]

theorem enter_same (kind : Kind) (known : p.kind? index = some kind)
    (agree : ∀ expr ∈ p.asked index, expr.holds other = expr.holds lookup) :
    p.enter other index trail = p.enter lookup index trail := by
  cases kind with
  | branch condition | elseBranch condition | loop condition =>
      simp only [enter, known, Trail.condition, agree condition (by simp [asked, known])]
  | random weights =>
      have considered (state : Pick × Trail) (child : Nat × Nat) (listed : child ∈ (p.children index).zipIdx) :
          p.consider other weights state child = p.consider lookup weights state child := by
        unfold consider
        cases found : p.command? child.1 with
        | none => rfl
        | some command =>
            cases guarded : command.guard with
            | none => simp only [Trail.passesGuard, guarded]
            | some guard =>
                have looks : guard ∈ p.asked index := by
                  simp only [asked, known, List.mem_filterMap]
                  exact ⟨child.1, List.fst_mem_of_mem_zipIdx listed, by rw [found, Option.bind_some, guarded]⟩
                simp only [Trail.passesGuard, guarded, Trail.condition, agree guard looks]
      have picked : p.pick other weights index trail = p.pick lookup weights index trail := by
        simp only [pick, List.foldl_ext _ _ _ considered]
      simp only [enter_random p _ index trail weights known, picked]
  | _ => simp only [enter, known]

end Agree

theorem flag_turns_iff (p : Playlist) (lookup : String → Option Value) (index : Nat) (trail : Trail) (host : Nat) :
    (p.move lookup index trail).2.isRaised host ≠ trail.isRaised host ↔ host = index ∧ p.Returning index := by
  have moved : p.advance lookup index true trail = p.move lookup index trail := by simp [advance]
  rcases advance_turns p lookup index true trail with ⟨same, single⟩ | ⟨_, returning, turned⟩
  · rw [moved] at same
    simp only [Trail.isRaised, same, ne_eq, not_true, single rfl, and_false]
  · rw [← moved, turned]
    by_cases own : host = index
    · subst own
      cases raised : trail.isRaised host <;> simp [Trail.raised_raise, Trail.raised_lower, raised, returning]
    · cases raised : trail.isRaised index <;> simp [Trail.raised_raise, Trail.raised_lower, own]

theorem move_consults_own_command (script : String) (commands : List Command) (p : Playlist)
    (built : build script commands = .ok p) (index : Nat) (lookup : String → Option Value) (trail : Trail) :
    let moved := p.move lookup index trail
    (∀ host, moved.2.isRaised host ≠ trail.isRaised host ↔ host = index ∧ p.Returning index) ∧
    ((∀ weights, p.kind? index ≠ some (.random weights)) → moved.2.draws = trail.draws) ∧
    (∀ weights, p.kind? index = some (.random weights) →
      let eligible := (p.children index).filter (p.grantsAt lookup)
      let drawn := p.lots lookup weights (p.children index).zipIdx trail.draws
      drawn.map Prod.fst = eligible ∧
      moved.2.draws = { trail.draws with taken := trail.draws.taken + eligible.length } ∧
      moved.1 = (Forest.winner {} drawn).elim (p.skip index (p.indentAt index)) .ok) ∧
    (∀ other, (∀ expr ∈ p.asked index, expr.grants other = expr.grants lookup) →
      (p.move other index trail).1 = moved.1 ∧ (p.move other index trail).2.raised = moved.2.raised ∧
        (p.move other index trail).2.draws = moved.2.draws) ∧
    (∀ other, (∀ expr ∈ p.asked index, expr.holds other = expr.holds lookup) → p.move other index trail = moved) ∧
    p.askedMove lookup index trail = moved := by
  intro moved
  have accepted := ((build_ok_iff script commands p).mp built).2
  refine ⟨flag_turns_iff p lookup index trail, fun settled => ?_, fun weights known => ?_, fun other agree => ?_,
    fun other agree => ?_, asked_move_eq p lookup index trail⟩
  all_goals simp only [moved, move]
  · split
    · rfl
    · next inside =>
        obtain ⟨command, found⟩ := p.command_found index (Nat.lt_of_not_le inside)
        have known := p.kind_of index command found
        split
        · exact enter_draws p lookup index trail command.kind known fun weights same => settled weights (same ▸ known)
        · rfl
  · obtain ⟨command, found, same⟩ := Option.map_eq_some_iff.mp known
    have enters := accepted.body index command found (by rw [same]; rfl)
    have inside := p.command_bound index command found
    obtain ⟨best, after⟩ := pick_lots p lookup weights index trail
    have listed := lots_children p lookup weights (p.children index).zipIdx trail.draws
    rw [List.zipIdx_map_fst] at listed
    rw [if_neg (Nat.not_le_of_gt inside), if_pos enters, enter_random p lookup index trail weights known]
    exact ⟨listed, after, by rw [best]⟩
  · split
    · exact ⟨rfl, rfl, rfl⟩
    · next inside =>
        obtain ⟨command, found⟩ := p.command_found index (Nat.lt_of_not_le inside)
        split
        · exact enter_agrees p lookup other index trail command.kind (p.kind_of index command found) agree
        · exact ⟨rfl, rfl, rfl⟩
  · split
    · rfl
    · next inside =>
        obtain ⟨command, found⟩ := p.command_found index (Nat.lt_of_not_le inside)
        rw [enter_same p lookup other index trail command.kind (p.kind_of index command found) agree]

-- Both blocks of the random block may be played, so each of them has its draw.
theorem drawn_story_draws_twice :
    build "story" drawnStory = .ok ⟨"story", drawnStory.toArray⟩ ∧
      ∀ (lookup : String → Option Value) (trail : Trail),
        (move ⟨"story", drawnStory.toArray⟩ lookup 1 trail).2.draws =
          { trail.draws with taken := trail.draws.taken + 2 } :=
  ⟨rfl, fun lookup trail => ((move_consults_own_command "story" drawnStory _ rfl 1 lookup trail).2.2.1 [] rfl).2.1⟩

end Playlist

end Storyline
