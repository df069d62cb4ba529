import Storyline.Proofs.ReturnVisits

set_option autoImplicit false

/-!
The chart of a run among the transition blocks. Without jumps a block is gone into at its first visit and left at its return
visit only, so the flags of the hosts tell where the caret is. The door is the transition block that was gone into last, if no
transition block was left since.
-/

namespace Storyline

def Kind.isTransition : Kind → Bool
  | .transition _ => true
  | _ => false

/-! ### Where the playlist leads into blocks -/

namespace Playlist

section Around

variable (p : Playlist) (accepted : p.Accepted) (index : Nat) (inside : index < p.length) (next host : Nat)
  (encloses : p.Encloses host next)
include accepted inside encloses

theorem skip_around (leads : p.skip index (p.indentAt index) = .ok next) : p.Encloses host index :=
  (skip_heads p accepted index inside).around leads host encloses

theorem enter_around (lookup : String → Option Value) (trail : Trail) (leads : (p.enter lookup index trail).1 = .ok next) :
    p.Encloses host index ∨ host = index := by
  obtain ⟨command, found⟩ := p.command_found index inside
  rcases enter_cases p lookup index trail command.kind (p.kind_of index command found) with
    member | past | ⟨_, first⟩ | ⟨_, child, listed, picked⟩
  · exact .inl ((next_member_heads p accepted index inside).around (member ▸ leads) host encloses)
  · exact .inl (skip_around p accepted index inside next host encloses (past ▸ leads))
  · obtain rfl := Except.ok.inj (first.symm.trans leads)
    rcases Nat.lt_or_eq_of_le (Nat.le_of_lt_succ encloses.1) with before | same
    · exact .inl (encloses_between p host _ index encloses before (Nat.le_succ _))
    · exact .inr same
  · obtain rfl := Except.ok.inj (picked.symm.trans leads)
    obtain ⟨after, _, level, between⟩ := mem_children p index child listed
    rcases Nat.lt_trichotomy host index with before | same | within
    · exact .inl (encloses_between p host child index encloses before (Nat.le_of_lt after))
    · exact .inr same
    · have shallow := encloses.2 child encloses.1 (Nat.le_refl _)
      have deep := between host within (Nat.le_of_lt encloses.1)
      omega

theorem advance_around (lookup : String → Option Value) (passed : Bool) (trail : Trail)
    (leads : (p.advance lookup index passed trail).1 = .ok next) : p.Encloses host index ∨ host = index := by
  rw [advance] at leads
  split at leads
  · exact .inl (skip_around p accepted index inside next host encloses leads)
  · rw [move, if_neg (Nat.not_le.mpr inside)] at leads
    by_cases enters : p.enters index = true
    · rw [if_pos enters] at leads
      exact enter_around p accepted index inside next host encloses lookup trail leads
    · rw [if_neg enters] at leads
      have alone := run_alone p accepted index inside (Bool.eq_false_iff.mpr enters)
      exact .inl ((leave_heads p accepted _ index index alone).around leads host encloses)

end Around

-- A transition with a body.
structure Veils (p : Playlist) (host : Nat) : Prop where
  kind : ∃ millis, p.kind? host = some (.transition millis)
  enters : p.enters host = true

theorem Veils.returning {p : Playlist} {host : Nat} (veils : p.Veils host) : p.Returning host := by
  obtain ⟨millis, known⟩ := veils.kind
  exact ⟨⟨_, known, rfl⟩, veils.enters⟩

-- No transition block stands in another one.
def Unnested (p : Playlist) : Prop := ∀ outer inner, p.Veils outer → p.Veils inner → ¬p.Encloses outer inner

instance decidableVeils (p : Playlist) (host : Nat) : Decidable (p.Veils host) :=
  decidable_of_iff ((p.kind? host).any Kind.isTransition = true ∧ p.enters host = true) (by
    refine ⟨fun ⟨kind, enters⟩ => ⟨?_, enters⟩, fun veils => ⟨?_, veils.enters⟩⟩
    · obtain ⟨kind, known, transition⟩ := (Option.any_eq_true _ _).mp kind
      cases kind with
      | transition millis => exact ⟨millis, known⟩
      | _ => cases transition
    · obtain ⟨millis, known⟩ := veils.kind
      rw [known]
      rfl)

instance decidableEncloses (p : Playlist) (host index : Nat) : Decidable (p.Encloses host index) :=
  decidable_of_iff (host < index ∧ ∀ other ≤ index, host < other → p.indentAt host < p.indentAt other)
    (and_congr_right fun _ => forall_congr' fun _ => forall_comm)

theorem Veils.bound {p : Playlist} {host : Nat} (veils : p.Veils host) : host < p.length :=
  p.host_bound host ((p.enters_iff host).mp veils.enters).1

instance decidableUnnested (p : Playlist) : Decidable p.Unnested :=
  decidable_of_iff (∀ outer < p.length, ∀ inner < p.length, p.Veils outer → p.Veils inner → ¬p.Encloses outer inner)
    ⟨fun bounded outer inner veils veiled => bounded outer veils.bound inner veiled.bound veils veiled,
      fun unnested outer _ inner _ => unnested outer inner⟩

end Playlist

/-! ### The chart of a run -/

namespace Player

theorem return_visit_iff (player : Player) (loaded : Loaded) (host : Nat) :
    player.isReturnVisit loaded host = true ↔ (loaded.handle, host) ∈ player.raised := by
  rw [isReturnVisit, List.contains_iff_mem]

theorem return_visit_same (before after : Player) (loaded : Loaded) (host : Nat)
    (same : (loaded.handle, host) ∈ after.raised ↔ (loaded.handle, host) ∈ before.raised) :
    after.isReturnVisit loaded host = before.isReturnVisit loaded host := by
  rw [Bool.eq_iff_iff, return_visit_iff, return_visit_iff]
  exact same

theorem next_return_visit (player : Player) (loaded : Loaded) (index : Nat) (passed : Bool) (host : Nat)
    (returning : loaded.playlist.Returning host) :
    (player.next loaded index passed).2.isReturnVisit loaded host =
      (player.isReturnVisit loaded host != (passed && decide (host = index))) := by
  have marked : (player.trail loaded).isRaised host = player.isReturnVisit loaded host := by
    rw [Bool.eq_iff_iff, return_visit_iff, Trail.isRaised, List.contains_iff_mem]
    exact player.mem_trail loaded host
  have follows : (player.next loaded index passed).2.isReturnVisit loaded host =
      (loaded.playlist.advance player.store.get? index passed (player.trail loaded)).2.isRaised host := by
    rw [Bool.eq_iff_iff, return_visit_iff, Trail.isRaised, List.contains_iff_mem, mem_next]
    simp
  rw [follows, ← marked]
  rcases loaded.playlist.advance_turns player.store.get? index passed (player.trail loaded) with
    ⟨same, single⟩ | ⟨held, _, turned⟩
  · have apart : (passed && decide (host = index)) = false := by
      rw [Bool.and_eq_false_imp]
      intro held
      exact decide_eq_false fun here => single held (here ▸ returning)
    rw [Trail.isRaised, same, apart, Bool.bne_false]
    rfl
  · rw [turned, held, Bool.true_and]
    cases due : (player.trail loaded).isRaised index with
    | true =>
        rw [if_pos rfl, Trail.raised_lower]
        by_cases here : host = index
        · simp [here, due]
        · simp [here]
    | false =>
        rw [if_neg Bool.false_ne_true, Trail.raised_raise]
        by_cases here : host = index
        · simp [here, due]
        · simp [here]

-- The host's block has been gone into and not been left. Between the two visits of the host its flag tells so; while the host
-- itself is visited the flag is yet to be turned.
def isOpen (player : Player) (loaded : Loaded) (turned : Bool) (host : Nat) : Bool :=
  player.isReturnVisit loaded host != (turned && decide (host = player.playback.index))

-- The command under the caret is in the body of the host, or it is the host and its body is behind it.
def IsWithin (player : Player) (loaded : Loaded) (host : Nat) : Prop :=
  loaded.playlist.Encloses host player.playback.index ∨
    player.playback.index = host ∧ player.isReturnVisit loaded host = true

-- Where the caret of a run is among the blocks that are visited twice. The run started at the first index.
structure Placed (loaded : Loaded) (first : Nat) (player : Player) : Prop where
  there : player.playback.loaded = some loaded
  bound : player.playback.index < loaded.playlist.length
  due : ∀ host, player.isReturnVisit loaded host = true → loaded.playlist.Returning host
  inside : ∀ host, loaded.playlist.Veils host → player.isReturnVisit loaded host = true →
    player.playback.index = host ∨ loaded.playlist.Encloses host player.playback.index
  around : ∀ host, loaded.playlist.Veils host → loaded.playlist.Encloses host player.playback.index →
    player.isReturnVisit loaded host = true ∨ loaded.playlist.Encloses host first

-- The door is the transition block that was gone into last, unless one was left since.
structure Charted (loaded : Loaded) (first : Nat) (player : Player) (door : Option Nat) (turned : Bool) : Prop where
  placed : player.Placed loaded first
  masked : player.playback.masked = door.isSome
  entered : ∀ host, door = some host → loaded.playlist.Veils host ∧ player.isOpen loaded turned host = true
  single : loaded.playlist.Unnested → player.presenter.capture.failure = none → ∀ host, loaded.playlist.Veils host →
    player.isOpen loaded turned host = true → door = some host

theorem open_elsewhere (player : Player) (loaded : Loaded) (turned : Bool) (host : Nat) (apart : host ≠ player.playback.index) :
    player.isOpen loaded turned host = player.isReturnVisit loaded host := by
  rw [isOpen, decide_eq_false apart, Bool.and_false, Bool.bne_false]

theorem open_before (player : Player) (loaded : Loaded) (host : Nat) :
    player.isOpen loaded false host = player.isReturnVisit loaded host := by
  rw [isOpen, Bool.false_and, Bool.bne_false]

namespace Placed

variable {loaded : Loaded} {first : Nat} {player after : Player} {turned : Bool}

theorem kept (placed : player.Placed loaded first)
    (there : after.playback.loaded = player.playback.loaded) (here : after.playback.index = player.playback.index)
    (flags : ∀ host, after.isReturnVisit loaded host = player.isReturnVisit loaded host) : after.Placed loaded first := by
  obtain ⟨on, bound, due, inside, around⟩ := placed
  simp only [← flags, ← here] at bound due inside around
  exact ⟨there.trans on, bound, due, inside, around⟩

section Advanced

variable (accepted : loaded.playlist.Accepted) (placed : player.Placed loaded first) (next : Nat)
  (leads : (player.next loaded player.playback.index turned).1 = .ok next)
include accepted placed leads

theorem raised_around (host : Nat) (veils : loaded.playlist.Veils host) (encloses : loaded.playlist.Encloses host next) :
    (player.next loaded player.playback.index turned).2.isReturnVisit loaded host = true ∨
      loaded.playlist.Encloses host first := by
  have leads : (loaded.playlist.advance player.store.get? player.playback.index turned (player.trail loaded)).1 = .ok next :=
    leads
  have skips (leads : loaded.playlist.skip player.playback.index (loaded.playlist.indentAt player.playback.index) = .ok next) :
      loaded.playlist.Encloses host player.playback.index :=
    loaded.playlist.skip_around accepted _ placed.bound next host encloses leads
  rw [next_return_visit player loaded _ turned host veils.returning]
  by_cases here : host = player.playback.index
  · subst here
    have apart : ¬loaded.playlist.Encloses player.playback.index player.playback.index := fun own => Nat.lt_irrefl _ own.1
    rcases loaded.playlist.advance_turns player.store.get? player.playback.index turned (player.trail loaded) with
      ⟨_, single⟩ | ⟨held, _, turns⟩
    · have refused : turned = false := Bool.eq_false_iff.mpr fun held => single held veils.returning
      have hosts := ((loaded.playlist.enters_iff _).mp veils.enters).1
      rw [Playlist.advance, hosts, refused, if_pos (by rfl)] at leads
      exact absurd (skips leads) apart
    · rw [turns] at leads
      cases due : (player.trail loaded).isRaised player.playback.index with
      | true =>
          rw [due, if_pos rfl] at leads
          exact absurd (skips leads) apart
      | false =>
          have fresh : player.isReturnVisit loaded player.playback.index = false := by
            rw [Bool.eq_false_iff, ne_eq, return_visit_iff, ← mem_trail, ← List.contains_iff_mem]
            exact Bool.eq_false_iff.mp due
          rw [fresh, held, decide_eq_true rfl]
          exact .inl rfl
  · rw [decide_eq_false here, Bool.and_false, Bool.bne_false]
    rcases loaded.playlist.advance_around accepted _ placed.bound next host encloses _ _ _ leads with outer | own
    · exact placed.around host veils outer
    · exact absurd own here

variable (held : loaded.playlist.Veils player.playback.index →
  player.isReturnVisit loaded player.playback.index = true → turned = true)
include held

theorem raised_inside (host : Nat) (veils : loaded.playlist.Veils host)
    (raised : (player.next loaded player.playback.index turned).2.isReturnVisit loaded host = true) :
    next = host ∨ loaded.playlist.Encloses host next := by
  rw [next_return_visit player loaded _ turned host veils.returning] at raised
  by_cases here : host = player.playback.index
  · subst here
    rw [decide_eq_true rfl, Bool.and_true] at raised
    cases passed : turned with
    | true =>
        rw [passed] at raised leads
        have fresh : (loaded.handle, player.playback.index) ∉ player.raised := fun due => by
          rw [(return_visit_iff player loaded _).mpr due] at raised
          cases raised
        obtain rfl := Except.ok.inj ((next_enters player loaded _ veils.returning fresh).symm.trans leads)
        refine .inr ⟨Nat.lt_succ_self _, fun other after upto => ?_⟩
        rw [Nat.le_antisymm upto after]
        exact ((loaded.playlist.enters_iff _).mp veils.enters).2
    | false =>
        rw [passed, Bool.bne_false] at raised
        cases passed.symm.trans (held veils raised)
  · rw [decide_eq_false here, Bool.and_false, Bool.bne_false] at raised
    rcases placed.inside host veils raised with at_ | encloses
    · exact absurd at_.symm here
    · exact loaded.playlist.advance_inside accepted host veils.returning _ placed.bound encloses _ _ _ next leads

end Advanced

end Placed

namespace Charted

variable {loaded : Loaded} {first : Nat} {player after : Player} {door : Option Nat} {turned : Bool}

theorem kept (charted : Charted loaded first player door turned) (there : after.playback.loaded = player.playback.loaded)
    (here : after.playback.index = player.playback.index)
    (flags : ∀ host, after.isReturnVisit loaded host = player.isReturnVisit loaded host)
    (masked : after.playback.masked = player.playback.masked) (presenter : after.presenter = player.presenter) :
    Charted loaded first after door turned := by
  have opened (host : Nat) : after.isOpen loaded turned host = player.isOpen loaded turned host := by
    rw [isOpen, isOpen, flags, here]
  refine ⟨charted.placed.kept there here flags, masked.trans charted.masked, fun host door => ?_,
    fun unnested films host veils open_ =>
      charted.single unnested (presenter ▸ films) host veils ((opened host).symm.trans open_)⟩
  rw [opened]
  exact charted.entered host door

theorem fresh (there : player.playback.loaded = some loaded) (bound : player.playback.index < loaded.playlist.length)
    (unmasked : player.playback.masked = false) (lowered : ∀ host, player.isReturnVisit loaded host = false) :
    Charted loaded player.playback.index player none false := by
  have never (host : Nat) (raised : player.isReturnVisit loaded host = true) : False := by
    cases (lowered host).symm.trans raised
  refine ⟨⟨there, bound, fun host raised => (never host raised).elim, fun host _ raised => (never host raised).elim,
    fun _ _ encloses => .inr encloses⟩, unmasked, fun host nothing => ?_, fun _ _ host _ open_ => ?_⟩
  · cases nothing
  · rw [open_before] at open_
    exact (never host open_).elim

theorem plain (charted : Charted loaded first player door turned) (apart : ¬loaded.playlist.Veils player.playback.index)
    (other : Bool) : Charted loaded first player door other := by
  have opened (host : Nat) (veils : loaded.playlist.Veils host) :
      player.isOpen loaded other host = player.isOpen loaded turned host := by
    have elsewhere : host ≠ player.playback.index := fun here => apart (here ▸ veils)
    rw [open_elsewhere player loaded other host elsewhere, open_elsewhere player loaded turned host elsewhere]
  refine { charted with entered := fun host door => ?_, single := fun unnested films host veils open_ => ?_ }
  · obtain ⟨veils, open_⟩ := charted.entered host door
    exact ⟨veils, (opened host veils).trans open_⟩
  · exact charted.single unnested films host veils ((opened host veils).symm.trans open_)

-- A first visit that fails to capture the picture leaves the door as it is, and yet the block is gone into.
theorem unfilmed (charted : Charted loaded first player door false)
    (fresh : player.isReturnVisit loaded player.playback.index = false) (cause : Error)
    (fails : player.presenter.capture.failure = some cause) : Charted loaded first player door true := by
  refine { charted with entered := fun host own => ?_, single := fun _ films => ?_ }
  · obtain ⟨veils, open_⟩ := charted.entered host own
    rw [open_before] at open_
    have elsewhere : host ≠ player.playback.index := by
      rintro rfl
      cases fresh.symm.trans open_
    exact ⟨veils, (open_elsewhere player loaded true host elsewhere).trans open_⟩
  · cases fails.symm.trans films

theorem advanced (accepted : loaded.playlist.Accepted) (next : Nat)
    (leads : (player.next loaded player.playback.index turned).1 = .ok next)
    (held : loaded.playlist.Veils player.playback.index →
      player.isReturnVisit loaded player.playback.index = true → turned = true)
    (charted : Charted loaded first player door turned) (there : after.playback.loaded = some loaded)
    (here : after.playback.index = next) (bound : next < loaded.playlist.length)
    (flags : after.raised = (player.next loaded player.playback.index turned).2.raised)
    (masked : after.playback.masked = player.playback.masked) (presenter : after.presenter = player.presenter) :
    Charted loaded first after door false := by
  have raised (host : Nat) : after.isReturnVisit loaded host =
      (player.next loaded player.playback.index turned).2.isReturnVisit loaded host := by
    rw [isReturnVisit, flags]
    rfl
  have opened (host : Nat) (veils : loaded.playlist.Veils host) :
      after.isOpen loaded false host = player.isOpen loaded turned host := by
    rw [open_before, raised, next_return_visit player loaded _ turned host veils.returning]
    rfl
  refine ⟨⟨there, here ▸ bound, fun host due => ?_, fun host veils due => ?_, fun host veils encloses => ?_⟩,
    masked.trans charted.masked, fun host door => ?_, fun unnested films host veils open_ => ?_⟩
  · rw [raised, return_visit_iff] at due
    rcases player.next_raises loaded _ _ _ due with old | ⟨own, returning, _⟩
    · exact charted.placed.due host ((return_visit_iff player loaded host).mpr old)
    · exact (Prod.mk.inj own).2 ▸ returning
  · rw [raised] at due
    rw [here]
    exact charted.placed.raised_inside accepted next leads held host veils due
  · rw [here] at encloses
    rw [raised]
    exact charted.placed.raised_around accepted next leads host veils encloses
  · obtain ⟨veils, open_⟩ := charted.entered host door
    exact ⟨veils, (opened host veils).trans open_⟩
  · exact charted.single unnested (presenter ▸ films) host veils ((opened host veils).symm.trans open_)

section Turned

variable (charted : Charted loaded first player door false) (there : after.playback.loaded = player.playback.loaded)
  (here : after.playback.index = player.playback.index)
  (flags : ∀ host, after.isReturnVisit loaded host = player.isReturnVisit loaded host)
  (veils : loaded.playlist.Veils player.playback.index)
include charted there here flags veils

-- The return visit of a transition block leaves no block open: the flag of another one would be raised too.
theorem left (due : player.isReturnVisit loaded player.playback.index = true) (masked : after.playback.masked = false)
    (presenter : after.presenter = player.presenter) : Charted loaded first after none true := by
  refine ⟨charted.placed.kept there here flags, masked, fun host nothing => ?_, fun unnested films host other open_ => ?_⟩
  · cases nothing
  · rw [presenter] at films
    have own := charted.single unnested films _ veils ((open_before player loaded _).trans due)
    by_cases same : host = after.playback.index
    · rw [isOpen, flags, decide_eq_true same, same, here, due] at open_
      cases open_
    · rw [open_elsewhere after loaded true host same, flags, ← open_before] at open_
      have there := Option.some.inj (own.symm.trans (charted.single unnested films host other open_))
      exact absurd (there.symm.trans here.symm) same

-- The first visit of a transition block leaves that block open. Any other open block is around it.
theorem opened (fresh : player.isReturnVisit loaded player.playback.index = false) (masked : after.playback.masked = true) :
    Charted loaded first after (some player.playback.index) true := by
  refine ⟨charted.placed.kept there here flags, masked, fun host own => ?_, fun unnested _ host other open_ => ?_⟩
  · obtain rfl := Option.some.inj own
    refine ⟨veils, ?_⟩
    rw [isOpen, flags, fresh, here, decide_eq_true rfl]
    rfl
  · by_cases same : host = after.playback.index
    · rw [same, here]
    · rw [open_elsewhere after loaded true host same, flags] at open_
      rcases charted.placed.inside host other open_ with at_ | encloses
      · exact absurd (here.trans at_).symm same
      · exact absurd encloses (unnested host _ other veils)

end Turned

theorem masked_iff (charted : Charted loaded first player door false) :
    player.playback.masked = true ↔ ∃ host, door = some host ∧ loaded.playlist.Veils host ∧ player.IsWithin loaded host := by
  rw [charted.masked]
  constructor
  · intro somewhere
    obtain ⟨host, here⟩ := Option.isSome_iff_exists.mp somewhere
    obtain ⟨veils, open_⟩ := charted.entered host here
    rw [open_before] at open_
    refine ⟨host, here, veils, ?_⟩
    rcases charted.placed.inside host veils open_ with at_ | encloses
    · exact .inr ⟨at_, open_⟩
    · exact .inl encloses
  · rintro ⟨host, here, _⟩
    rw [here]
    rfl

theorem door_eq (charted : Charted loaded first player door false) (unnested : loaded.playlist.Unnested)
    (films : player.presenter.capture.failure = none)
    (outside : ∀ host, loaded.playlist.Veils host → ¬loaded.playlist.Encloses host first) (host : Nat)
    (veils : loaded.playlist.Veils host) (within : player.IsWithin loaded host) : door = some host := by
  refine charted.single unnested films host veils ?_
  rw [open_before]
  rcases within with encloses | ⟨_, raised⟩
  · exact (charted.placed.around host veils encloses).resolve_right (outside host veils)
  · exact raised

end Charted

end Player

end Storyline
