import Storyline.Proofs.Grammar
import Storyline.Proofs.Leaving

set_option autoImplicit false

/-!
Two ways to follow a story. A walk goes through the flat list from index to index by navigation alone. A structured
interpreter plays a forest of blocks by recursion on the blocks. Either stops after a given number of visits, so that
stories without an end can be compared visit by visit.
-/

namespace Storyline

-- The indices visited so far, last one first, and what conditions, draws and return visits have left behind.
structure Tour where
  visits : List Nat := []
  trail : Trail

inductive Halt where
  | spent
  | fault (cause : StructuralError)

-- The variables at every visit, and how many visits are made at most.
structure Reader where
  stores : Nat → String → Option Value
  limit : Nat

namespace Tour

def visit {α : Type} (reader : Reader) (index : Nat) (act : (String → Option Value) → Trail → α × Trail) (tour : Tour) :
    Except (Halt × Tour) (α × Tour) :=
  if reader.limit ≤ tour.visits.length then .error (.spent, tour)
  else
    let done := act (reader.stores tour.visits.length) tour.trail
    .ok (done.1, ⟨index :: tour.visits, done.2⟩)

-- Every round makes a visit, so the limit bounds the rounds too.
def rounds (reader : Reader) (host : Nat) (condition : Expr) (body : Tour → Except (Halt × Tour) Tour) :
    Nat → Tour → Except (Halt × Tour) Tour
  | 0, tour => .error (.spent, tour)
  | left + 1, tour => do
      let tested ← tour.visit reader host fun lookup trail => trail.condition lookup condition
      if tested.1 then
        let played ← body tested.2
        rounds reader host condition body left played
      else pure tested.2

end Tour

/-! ### Walking through the list -/

namespace Playlist

def walk (p : Playlist) (stores : Nat → String → Option Value) : Nat → Nat → Tour → Except (Halt × Tour) Tour
  | 0, index, tour => if p.length ≤ index then .ok tour else .error (.spent, tour)
  | left + 1, index, tour =>
      if p.length ≤ index then .ok tour
      else
        match p.move (stores tour.visits.length) index tour.trail with
        | (.ok next, trail) => walk p stores left next ⟨index :: tour.visits, trail⟩
        | (.error cause, trail) => .error (.fault cause, ⟨index :: tour.visits, trail⟩)

end Playlist

/-! ### Playing blocks -/

-- What a branch did with its body; other blocks are just passed.
inductive Outcome where
  | passed
  | ran
  | declined

-- What is played of the blocks of a row.
inductive Reading where
  | all
  -- a body of the chain has run: the other members are left out
  | beyond
  -- one block alone, and the rest of its chain if it declines
  | only (index : Nat)
  -- the chain goes on with its next member; nothing else is played
  | onward
  | nothing

namespace Reading

-- How the others are read when a block is left out.
def omitting? : Reading → Nat → Kind → Option Reading
  | .all, _, _ => none
  | .beyond, _, .endBranch => some .all
  | .beyond, _, kind => if kind.continues then some .beyond else none
  | .only index, start, _ => if start = index then none else some (.only index)
  | .onward, _, kind => if kind.continues then none else some .nothing
  | .nothing, _, _ => some .nothing

-- How the others are read when a block has been played.
def after : Reading → Outcome → Reading
  | .all, .ran | .beyond, .ran => .beyond
  | .all, _ | .beyond, _ => .all
  | _, .declined => .onward
  | _, _ => .nothing

end Reading

namespace Forest

-- The children of a random block whose guards hold, each with its weighted draw.
def scores (lookup : String → Option Value) (weights : List Float32) :
    Forest → Nat → Nat → Trail → List (Nat × Float32) × Trail
  | .nil, _, _, trail => ([], trail)
  | .cons command body rest, start, position, trail =>
      let guarded := trail.passesGuard lookup command
      if guarded.1 then
        let drawn := guarded.2.draw
        let others := rest.scores lookup weights (start + 1 + body.size) (position + 1) drawn.2
        ((start, drawn.1 * Playlist.weightAt weights position) :: others.1, others.2)
      else rest.scores lookup weights (start + 1 + body.size) (position + 1) guarded.2

-- The first of the greatest scores; a score of minus one or less never wins.
def winner : Playlist.Pick → List (Nat × Float32) → Option Nat
  | best, [] => best.best
  | best, (index, score) :: others => if best.score < score then winner ⟨some index, score⟩ others else winner best others

def pick (lookup : String → Option Value) (weights : List Float32) (children : Forest) (start : Nat) (trail : Trail) :
    Option Nat × Trail :=
  let scored := children.scores lookup weights start 0 trail
  (winner {} scored.1, scored.2)

end Forest

-- One block: its host and what is played of its body.
def Kind.play (reader : Reader) (kind : Kind) (body : Forest) (start : Nat)
    (inside : Reading → Tour → Except (Halt × Tour) Tour) (tour : Tour) : Except (Halt × Tour) (Outcome × Tour) :=
  match kind with
  | .branch condition | .elseBranch condition => do
      let tested ← tour.visit reader start fun lookup trail => trail.condition lookup condition
      if tested.1 then
        let played ← inside .all tested.2
        pure (.ran, played)
      else pure (.declined, tested.2)
  | .otherwise => do
      let passed ← tour.visit reader start fun _ trail => ((), trail)
      let played ← inside .all passed.2
      pure (.ran, played)
  | .loop condition => do
      let played ← tour.rounds reader start condition (inside .all) reader.limit
      pure (.passed, played)
  | .random weights => do
      let picked ← tour.visit reader start fun lookup trail => body.pick lookup weights (start + 1) trail
      match picked.1 with
      | some child =>
          let played ← inside (.only child) picked.2
          pure (.passed, played)
      | none => pure (.passed, picked.2)
  | .delay _ => do
      let passed ← tour.visit reader start fun _ trail => ((), trail)
      pure (.passed, passed.2)
  | .await | .transition _ => do
      if body.isEmpty then
        let passed ← tour.visit reader start fun _ trail => ((), trail)
        pure (.passed, passed.2)
      else
        let first ← tour.visit reader start fun _ trail => ((), trail.raise start)
        let played ← inside .all first.2
        let second ← played.visit reader start fun _ trail => ((), trail.lower start)
        pure (.passed, second.2)
  | _ => do
      let passed ← tour.visit reader start fun _ trail => ((), trail)
      let played ← inside .all passed.2
      pure (.passed, played)

def Forest.play (reader : Reader) : Forest → Reading → Nat → Tour → Except (Halt × Tour) Tour
  | .nil, _, _, tour => .ok tour
  | .cons command body rest, reading, start, tour =>
      match reading.omitting? start command.kind with
      | some others => rest.play reader others (start + 1 + body.size) tour
      | none => do
          let played ← command.kind.play reader body start (fun part => body.play reader part (start + 1)) tour
          rest.play reader (reading.after played.1) (start + 1 + body.size) played.2

theorem bind_same {ε α β : Type} (x : Except ε α) (f g : α → Except ε β) (same : ∀ a, x = .ok a → f a = g a) :
    (x >>= f) = (x >>= g) := by
  cases x with
  | error cause => rfl
  | ok a => exact same a rfl

/-! ### What playing leaves alone -/

namespace Trail

@[simp] theorem condition_raised (trail : Trail) (lookup : String → Option Value) (expr : Expr) :
    (trail.condition lookup expr).2.raised = trail.raised := by
  unfold condition
  split <;> rfl

@[simp] theorem guard_raised (trail : Trail) (lookup : String → Option Value) (command : Command) :
    (trail.passesGuard lookup command).2.raised = trail.raised := by
  unfold passesGuard
  split
  · rfl
  · exact condition_raised trail lookup _

theorem lower_raised (trail : Trail) (host : Nat) (hosts : List Nat) (marked : trail.raised = host :: hosts)
    (low : ∀ index ∈ hosts, index < host) : (trail.lower host).raised = hosts := by
  simp only [lower, marked, ne_eq, decide_not, List.filter_cons, decide_true, Bool.not_true, Bool.false_eq_true, if_false]
  refine List.filter_eq_self.mpr fun index member => ?_
  have less := low index member
  simp only [Bool.not_eq_true', decide_eq_false_iff_not]
  omega

theorem not_raised (trail : Trail) (host : Nat) (low : ∀ index ∈ trail.raised, index < host) :
    trail.isRaised host = false := by
  simp only [isRaised, List.contains_eq_mem, decide_eq_false_iff_not]
  exact fun member => absurd (low host member) (Nat.lt_irrefl host)

end Trail

theorem scores_raised (lookup : String → Option Value) (weights : List Float32) (children : Forest)
    (start position : Nat) (trail : Trail) :
    (children.scores lookup weights start position trail).2.raised = trail.raised := by
  induction children generalizing start position trail with
  | nil => rfl
  | cons command body rest _ restIh =>
      simp only [Forest.scores]
      by_cases passes : (trail.passesGuard lookup command).1 = true
      · simp [if_pos passes, restIh, Trail.draw]
      · simp [if_neg passes, restIh]

-- The return visits that are due at the end are those that were due at the start.
structure Kept (before after : Tour) : Prop where
  raised : after.trail.raised = before.trail.raised
  longer : before.visits.length ≤ after.visits.length

theorem Kept.trans {a b c : Tour} (ab : Kept a b) (bc : Kept b c) : Kept a c :=
  ⟨bc.raised.trans ab.raised, Nat.le_trans ab.longer bc.longer⟩

-- No return visit is due from `start` on.
def Tour.Below (tour : Tour) (start : Nat) : Prop := ∀ index ∈ tour.trail.raised, index < start

theorem Tour.Below.mono {tour : Tour} {start later : Nat} (below : tour.Below start) (upto : start ≤ later) :
    tour.Below later :=
  fun index member => Nat.lt_of_lt_of_le (below index member) upto

theorem Kept.below {before after : Tour} {start : Nat} (kept : Kept before after) (below : before.Below start) :
    after.Below start := by
  unfold Tour.Below
  rw [kept.raised]
  exact below

theorem visit_done {α : Type} {reader : Reader} {index : Nat} {act : (String → Option Value) → Trail → α × Trail}
    {tour : Tour} {done : α × Tour} (visited : tour.visit reader index act = .ok done) :
    done = ((act (reader.stores tour.visits.length) tour.trail).1,
      ⟨index :: tour.visits, (act (reader.stores tour.visits.length) tour.trail).2⟩) := by
  unfold Tour.visit at visited
  split at visited
  · cases visited
  · exact (Except.ok.inj visited).symm

theorem visit_kept {α : Type} {reader : Reader} {index : Nat} {act : (String → Option Value) → Trail → α × Trail}
    {tour : Tour} {done : α × Tour} (visited : tour.visit reader index act = .ok done)
    (quiet : ∀ lookup trail, (act lookup trail).2.raised = trail.raised) :
    Kept tour done.2 ∧ tour.visits.length < done.2.visits.length := by
  rw [visit_done visited]
  exact ⟨⟨quiet _ _, Nat.le_succ _⟩, Nat.lt_succ_self _⟩

def KeepsBelow (start : Nat) (play : Tour → Except (Halt × Tour) Tour) : Prop :=
  ∀ tour after, tour.Below start → play tour = .ok after → Kept tour after

theorem rounds_kept (reader : Reader) (host : Nat) (condition : Expr) (body : Tour → Except (Halt × Tour) Tour)
    (keeps : KeepsBelow (host + 1) body) (left : Nat) (tour after : Tour) (below : tour.Below (host + 1))
    (done : tour.rounds reader host condition body left = .ok after) : Kept tour after := by
  induction left generalizing tour with
  | zero => cases done
  | succ left ih =>
      obtain ⟨tested, visited, rest⟩ := bind_ok done
      have kept := (visit_kept visited (by simp)).1
      by_cases holds : tested.1 = true
      · rw [if_pos holds] at rest
        obtain ⟨played, ran, again⟩ := bind_ok rest
        have both := kept.trans (keeps tested.2 played (kept.below below) ran)
        exact both.trans (ih played (both.below below) again)
      · rw [if_neg holds] at rest
        obtain rfl := Except.ok.inj rest
        exact kept

theorem raised_below (reader : Reader) (start : Nat) (tour : Tour) (first : Unit × Tour) (below : tour.Below start)
    (entered : tour.visit reader start (fun _ trail => ((), trail.raise start)) = .ok first) :
    first.2.Below (start + 1) := by
  rw [visit_done entered]
  intro index member
  rcases List.mem_cons.mp member with here | before
  · omega
  · exact Nat.lt_succ_of_lt (below index before)

-- A return visit clears the mark that the first visit has set, and nothing inside the block touches it.
theorem return_kept (reader : Reader) (start : Nat) (tour : Tour) (first second : Unit × Tour) (played : Tour)
    (below : tour.Below start)
    (entered : tour.visit reader start (fun _ trail => ((), trail.raise start)) = .ok first) (inner : Kept first.2 played)
    (returned : played.visit reader start (fun _ trail => ((), trail.lower start)) = .ok second) : Kept tour second.2 := by
  obtain rfl := visit_done entered
  obtain rfl := visit_done returned
  exact ⟨Trail.lower_raised played.trail start _ inner.raised below, by have longer := inner.longer; simp at longer ⊢; omega⟩

/-! ### One block -/

-- The seven ways to play a block.
inductive Manner (kind : Kind) : Prop where
  | branch (condition : Expr) (tests : kind = .branch condition ∨ kind = .elseBranch condition)
  | loop (condition : Expr) (tests : kind = .loop condition)
  | random (weights : List Float32) (draws : kind = .random weights)
  | delay (millis : UInt64) (waits : kind = .delay millis)
  | returning (returns : kind.returns = true)
  | otherwise (last : kind = .otherwise)
  | plain (plain : kind.policy = .plain)

theorem Kind.manner (kind : Kind) : Manner kind := by
  cases kind with
  | branch condition => exact .branch condition (.inl rfl)
  | elseBranch condition => exact .branch condition (.inr rfl)
  | loop condition => exact .loop condition rfl
  | random weights => exact .random weights rfl
  | delay millis => exact .delay millis rfl
  | await => exact .returning rfl
  | transition millis => exact .returning rfl
  | otherwise => exact .otherwise rfl
  | _ => exact .plain rfl

section Block

variable (reader : Reader) (kind : Kind) (body : Forest) (start : Nat)
  (inside : Reading → Tour → Except (Halt × Tour) Tour) (tour : Tour)

theorem play_branch (condition : Expr) (tests : kind = .branch condition ∨ kind = .elseBranch condition) :
    kind.play reader body start inside tour = (do
      let tested ← tour.visit reader start fun lookup trail => trail.condition lookup condition
      if tested.1 then
        let played ← inside .all tested.2
        pure (.ran, played)
      else pure (.declined, tested.2)) := by
  rcases tests with rfl | rfl <;> rfl

theorem play_returning (returns : kind.returns = true) (nonempty : body.isEmpty = false) :
    kind.play reader body start inside tour = (do
      let first ← tour.visit reader start fun _ trail => ((), trail.raise start)
      let played ← inside .all first.2
      let second ← played.visit reader start fun _ trail => ((), trail.lower start)
      pure (.passed, second.2)) := by
  cases kind <;> simp_all [Kind.returns, Kind.play]

theorem play_alone (returns : kind.returns = true) (empty : body.isEmpty = true) :
    kind.play reader body start inside tour = (do
      let passed ← tour.visit reader start fun _ trail => ((), trail)
      pure (.passed, passed.2)) := by
  cases kind <;> simp_all [Kind.returns, Kind.play]

theorem play_plain (plain : kind.policy = .plain) :
    kind.play reader body start inside tour = (do
      let passed ← tour.visit reader start fun _ trail => ((), trail)
      let played ← inside .all passed.2
      pure (.passed, played)) := by
  cases kind <;> simp_all [Kind.policy, Kind.play]

end Block

theorem block_kept (reader : Reader) (kind : Kind) (body : Forest) (start : Nat)
    (inside : Reading → Tour → Except (Halt × Tour) Tour) (keeps : ∀ part, KeepsBelow (start + 1) (inside part))
    (tour : Tour) (done : Outcome × Tour) (below : tour.Below start)
    (played : kind.play reader body start inside tour = .ok done) : Kept tour done.2 := by
  have nested := below.mono (Nat.le_succ start)
  have onward (part : Reading) (met after : Tour) (kept : Kept tour met) (ran : inside part met = .ok after) :
      Kept tour after := kept.trans (keeps part met after (kept.below nested) ran)
  have tested (condition : Expr) (visited : Bool × Tour)
      (host : tour.visit reader start (fun lookup trail => trail.condition lookup condition) = .ok visited) :
      Kept tour visited.2 := (visit_kept host (by simp)).1
  have passed (visited : Unit × Tour) (host : tour.visit reader start (fun _ trail => ((), trail)) = .ok visited) :
      Kept tour visited.2 := (visit_kept host (fun _ _ => rfl)).1
  cases kind.manner with
  | branch condition tests =>
      rw [play_branch reader kind body start inside tour condition tests] at played
      obtain ⟨visited, host, rest⟩ := bind_ok played
      by_cases holds : visited.1 = true
      · rw [if_pos holds] at rest
        obtain ⟨after, ran, same⟩ := bind_ok rest
        obtain rfl := Except.ok.inj same
        exact onward _ visited.2 after (tested condition visited host) ran
      · rw [if_neg holds] at rest
        obtain rfl := Except.ok.inj rest
        exact tested condition visited host
  | loop condition tests =>
      subst tests
      obtain ⟨after, ran, same⟩ := bind_ok played
      obtain rfl := Except.ok.inj same
      exact rounds_kept reader start condition _ (keeps .all) reader.limit tour after nested ran
  | random weights draws =>
      subst draws
      obtain ⟨visited, host, rest⟩ := bind_ok played
      have kept := (visit_kept host
        (fun lookup trail => scores_raised lookup weights body (start + 1) 0 trail)).1
      cases picked : visited.1 with
      | none =>
          simp only [picked] at rest
          obtain rfl := Except.ok.inj rest
          exact kept
      | some child =>
          simp only [picked] at rest
          obtain ⟨after, ran, same⟩ := bind_ok rest
          obtain rfl := Except.ok.inj same
          exact onward _ visited.2 after kept ran
  | delay millis waits =>
      subst waits
      obtain ⟨visited, host, same⟩ := bind_ok played
      obtain rfl := Except.ok.inj same
      exact passed visited host
  | returning returns =>
      by_cases empty : body.isEmpty = true
      · rw [play_alone reader kind body start inside tour returns empty] at played
        obtain ⟨visited, host, same⟩ := bind_ok played
        obtain rfl := Except.ok.inj same
        exact passed visited host
      · rw [play_returning reader kind body start inside tour returns (Bool.eq_false_iff.mpr empty)] at played
        obtain ⟨first, entered, rest⟩ := bind_ok played
        obtain ⟨after, ran, rest⟩ := bind_ok rest
        obtain ⟨second, returned, same⟩ := bind_ok rest
        obtain rfl := Except.ok.inj same
        have inner := keeps .all first.2 after (raised_below reader start tour first below entered) ran
        exact return_kept reader start tour first second after below entered inner returned
  | otherwise last =>
      subst last
      obtain ⟨visited, host, rest⟩ := bind_ok played
      obtain ⟨after, ran, same⟩ := bind_ok rest
      obtain rfl := Except.ok.inj same
      exact onward _ visited.2 after (passed visited host) ran
  | plain plain =>
      rw [play_plain reader kind body start inside tour plain] at played
      obtain ⟨visited, host, rest⟩ := bind_ok played
      obtain ⟨after, ran, same⟩ := bind_ok rest
      obtain rfl := Except.ok.inj same
      exact onward _ visited.2 after (passed visited host) ran

theorem play_kept (reader : Reader) (forest : Forest) (reading : Reading) (start : Nat) :
    KeepsBelow start (forest.play reader reading start) := by
  induction forest generalizing reading start with
  | nil =>
      intro tour after _ done
      obtain rfl := Except.ok.inj done
      exact ⟨rfl, Nat.le_refl _⟩
  | cons command body rest bodyIh restIh =>
      intro tour after below done
      have later := below.mono (by omega : start ≤ start + 1 + body.size)
      rw [Forest.play] at done
      split at done
      · exact restIh _ _ tour after later done
      · obtain ⟨played, ran, others⟩ := bind_ok done
        have kept := block_kept reader command.kind body start _ (fun part => bodyIh part (start + 1)) tour played below ran
        exact kept.trans (restIh _ _ played.2 after (kept.below later) others)

theorem played_kept (reader : Reader) (kind : Kind) (body : Forest) (start : Nat) (tour : Tour) (done : Outcome × Tour)
    (below : tour.Below start)
    (played : kind.play reader body start (fun part => body.play reader part (start + 1)) tour = .ok done) :
    Kept tour done.2 :=
  block_kept reader kind body start _ (fun part => play_kept reader body part (start + 1)) tour done below played

end Storyline
