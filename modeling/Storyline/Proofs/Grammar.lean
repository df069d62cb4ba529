import Storyline.Proofs.Forest

set_option autoImplicit false

/-!
The grammar of blocks. Which kinds have a body is a matter of the kind alone; branches stand in chains of siblings. The
checks that a playlist passes look at neighbours and scan backwards, and accept exactly the lists that spell out a forest of
this grammar.
-/

namespace Storyline

inductive BodyRule where
  | required
  | optional
  | forbidden
deriving DecidableEq, Repr

namespace Kind

def bodyRule : Kind → BodyRule
  | .branch _ | .elseBranch _ | .otherwise | .loop _ | .random _ | .group | .delay _ => .required
  | .await | .transition _ => .optional
  | .custom command => if command.host then .optional else .forbidden
  | .set .. | .print _ | .wait _ | .waitInput | .label _ | .goto _ | .gosub _ | .ret | .stop | .endBranch => .forbidden

def inChain : Kind → Bool
  | .branch _ | .elseBranch _ | .otherwise | .endBranch => true
  | _ => false

end Kind

def BodyRule.Admits : BodyRule → Forest → Prop
  | .required, body => body.isEmpty = false
  | .optional, _ => True
  | .forbidden, body => body.isEmpty = true

def Chain (members : List Kind) : Prop :=
  ∃ condition conditions otherwise closing,
    members = .branch condition :: (List.map .elseBranch conditions ++ (otherwise ++ closing)) ∧
      (otherwise = [] ∨ otherwise = [.otherwise]) ∧ (closing = [] ∨ closing = [.endBranch])

inductive Row : List Kind → Prop where
  | nil : Row []
  | block (kind : Kind) (kinds : List Kind) (apart : kind.inChain = false) (others : Row kinds) : Row (kind :: kinds)
  | chain (members kinds : List Kind) (chain : Chain members) (others : Row kinds) : Row (members ++ kinds)

namespace Forest

def kinds : Forest → List Kind
  | .nil => []
  | .cons command _ rest => command.kind :: rest.kinds

def Bodied : Forest → Prop
  | .nil => True
  | .cons command body rest =>
      command.kind.bodyRule.Admits body ∧ Row body.kinds ∧ body.Bodied ∧ rest.Bodied

def Grammatical (forest : Forest) : Prop := Row forest.kinds ∧ forest.Bodied

end Forest

/-! ### Chains, one sibling at a time -/

-- Whether a continuation may stand after the sibling before it.
def mayFollow : Option Kind → Kind → Bool
  | some (.branch _), _ => true
  | some (.elseBranch _), _ => true
  | some .otherwise, .endBranch => true
  | _, _ => false

def Follows : Option Kind → List Kind → Prop
  | _, [] => True
  | before, kind :: kinds => (kind.continues = true → mayFollow before kind = true) ∧ Follows (some kind) kinds

theorem follows_weaken (before : Option Kind) (kinds : List Kind) (follows : Follows none kinds) :
    Follows before kinds := by
  cases kinds with
  | nil => trivial
  | cons kind kinds =>
      refine ⟨fun continues => ?_, follows.2⟩
      have refused := follows.1 continues
      simp [mayFollow] at refused

theorem follows_closing (before : Option Kind) (closing kinds : List Kind)
    (shape : closing = [] ∨ closing = [.endBranch]) (ready : mayFollow before .endBranch = true)
    (follows : Follows none kinds) : Follows before (closing ++ kinds) := by
  rcases shape with rfl | rfl
  · exact follows_weaken before kinds follows
  · exact ⟨fun _ => ready, follows_weaken _ kinds follows⟩

theorem follows_members (before : Option Kind) (conditions : List Expr) (otherwise closing kinds : List Kind)
    (shape : otherwise = [] ∨ otherwise = [.otherwise]) (closed : closing = [] ∨ closing = [.endBranch])
    (ready : ∀ kind, mayFollow before kind = true) (follows : Follows none kinds) :
    Follows before (List.map .elseBranch conditions ++ (otherwise ++ closing) ++ kinds) := by
  induction conditions generalizing before with
  | nil =>
      rcases shape with rfl | rfl
      · simpa using follows_closing before closing kinds closed (ready _) follows
      · exact ⟨fun _ => ready _, follows_closing (some .otherwise) closing kinds closed rfl follows⟩
  | cons condition conditions ih => exact ⟨fun _ => ready _, ih (some (.elseBranch condition)) (fun _ => rfl)⟩

theorem follows_of_row (kinds : List Kind) (row : Row kinds) : Follows none kinds := by
  induction row with
  | nil => trivial
  | block kind kinds apart others ih =>
      refine ⟨fun continues => ?_, follows_weaken _ kinds ih⟩
      cases kind <;> simp_all [Kind.inChain, Kind.continues]
  | chain members kinds chain others ih =>
      obtain ⟨condition, conditions, otherwise, closing, rfl, shape, closed⟩ := chain
      exact ⟨fun continues => by simp [Kind.continues] at continues,
        follows_members _ conditions otherwise closing kinds shape closed (fun _ => rfl) ih⟩

def AfterOtherwise (kinds : List Kind) : Prop :=
  ∃ closing others, kinds = closing ++ others ∧ (closing = [] ∨ closing = [.endBranch]) ∧ Row others

def AfterBranch (kinds : List Kind) : Prop :=
  ∃ conditions otherwise others, kinds = List.map .elseBranch conditions ++ (otherwise ++ others) ∧
    (otherwise = [] ∨ otherwise = [.otherwise]) ∧ AfterOtherwise others

-- What the siblings after a given one look like.
def Shape : Option Kind → List Kind → Prop
  | some (.branch _), kinds => AfterBranch kinds
  | some (.elseBranch _), kinds => AfterBranch kinds
  | some .otherwise, kinds => AfterOtherwise kinds
  | _, kinds => Row kinds

theorem after_otherwise_row (kinds : List Kind) (row : Row kinds) : AfterOtherwise kinds :=
  ⟨[], kinds, rfl, .inl rfl, row⟩

theorem after_branch_otherwise (kinds : List Kind) (after : AfterOtherwise kinds) : AfterBranch kinds :=
  ⟨[], [], kinds, rfl, .inl rfl, after⟩

theorem shape_of_row (before : Option Kind) (kinds : List Kind) (row : Row kinds) : Shape before kinds := by
  unfold Shape
  split
  · exact after_branch_otherwise kinds (after_otherwise_row kinds row)
  · exact after_branch_otherwise kinds (after_otherwise_row kinds row)
  · exact after_otherwise_row kinds row
  · exact row

theorem row_of_branch (condition : Expr) (kinds : List Kind) (after : AfterBranch kinds) :
    Row (.branch condition :: kinds) := by
  obtain ⟨conditions, otherwise, others, rfl, shape, closing, kinds, rfl, closed, row⟩ := after
  have chained := Row.chain _ kinds ⟨condition, conditions, otherwise, closing, rfl, shape, closed⟩ row
  simpa only [List.cons_append, List.append_assoc] using chained

theorem shape_of_else_branch (before : Option Kind) (condition : Expr) (kinds : List Kind)
    (ready : mayFollow before (.elseBranch condition) = true) (after : AfterBranch kinds) :
    Shape before (.elseBranch condition :: kinds) := by
  have grown : AfterBranch (.elseBranch condition :: kinds) := by
    obtain ⟨conditions, otherwise, others, rfl, shape, closing⟩ := after
    exact ⟨condition :: conditions, otherwise, others, rfl, shape, closing⟩
  unfold Shape
  split <;> simp_all [mayFollow]

theorem shape_of_otherwise (before : Option Kind) (kinds : List Kind) (ready : mayFollow before .otherwise = true)
    (after : AfterOtherwise kinds) : Shape before (.otherwise :: kinds) := by
  have grown : AfterBranch (.otherwise :: kinds) := ⟨[], [.otherwise], kinds, rfl, .inr rfl, after⟩
  unfold Shape
  split <;> simp_all [mayFollow]

theorem shape_of_end_branch (before : Option Kind) (kinds : List Kind) (ready : mayFollow before .endBranch = true)
    (row : Row kinds) : Shape before (.endBranch :: kinds) := by
  have closed : AfterOtherwise (.endBranch :: kinds) := ⟨[.endBranch], kinds, rfl, .inr rfl, row⟩
  have grown := after_branch_otherwise _ closed
  unfold Shape
  split <;> simp_all [mayFollow]

theorem shape_of_follows (before : Option Kind) (kinds : List Kind) (follows : Follows before kinds) :
    Shape before kinds := by
  induction kinds generalizing before with
  | nil => exact shape_of_row before [] .nil
  | cons kind kinds ih =>
      obtain ⟨placed, others⟩ := follows
      have after := ih (some kind) others
      cases kind with
      | branch condition => exact shape_of_row before _ (row_of_branch condition kinds after)
      | elseBranch condition => exact shape_of_else_branch before condition kinds (placed rfl) after
      | otherwise => exact shape_of_otherwise before kinds (placed rfl) after
      | endBranch => exact shape_of_end_branch before kinds (placed rfl) after
      | _ => exact shape_of_row before _ (.block _ kinds rfl after)

theorem row_iff_follows (kinds : List Kind) : Row kinds ↔ Follows none kinds :=
  ⟨follows_of_row kinds, shape_of_follows none kinds⟩

/-! ### What the checks find in a row of blocks -/

-- The sibling before an index, as the backward scan finds it.
def Preceded (p : Playlist) (depth start : Nat) : Option Kind → Prop
  | none => ∀ host, p.shallower? depth start = some host → p.indentAt host ≠ depth
  | some kind => ∃ host, p.shallower? depth start = some host ∧ p.indentAt host = depth ∧ p.kind? host = some kind

theorem misplaced_iff (p : Playlist) (depth start : Nat) (before : Option Kind) (command : Command)
    (indent : command.indent = depth) (preceded : Preceded p depth start before) :
    p.misplaced start command = !mayFollow before command.kind := by
  subst depth
  cases before with
  | none =>
      unfold Playlist.misplaced
      cases scanned : p.shallower? command.indent start with
      | none => rfl
      | some host =>
          have apart := preceded host scanned
          cases found : p.command? host with
          | none => simp only [found, mayFollow, Bool.not_false]
          | some opener =>
              rw [p.indent_of host opener found] at apart
              simp [found, apart, mayFollow]
  | some kind =>
      obtain ⟨host, scanned, level, known⟩ := preceded
      cases found : p.command? host with
      | none => simp [Playlist.kind?, found] at known
      | some opener =>
          rw [p.indent_of host opener found] at level
          obtain rfl : opener.kind = kind := by simpa [Playlist.kind?, found] using known
          simp only [Playlist.misplaced, scanned, found, level, decide_true, Bool.true_and]
          cases opener.kind <;> cases command.kind <;> rfl

theorem preceded_first (p : Playlist) : Preceded p 0 0 none := by
  intro host found
  cases found

-- All that the checks of a playlist demand of one index, but for the steps of the indentation.
structure SoundAt (p : Playlist) (index : Nat) : Prop where
  body : ∀ command, p.command? index = some command → command.kind.requiresBody = true → p.enters index = true
  chain : ∀ command, p.command? index = some command → command.kind.continues = true →
    p.misplaced index command = false
  host : p.indentAt index < p.indentAt (index + 1) → p.isHost index = true

theorem admits_iff (kind : Kind) (body : Forest) :
    kind.bodyRule.Admits body ↔
      (kind.requiresBody = true → body.isEmpty = false) ∧ (body.isEmpty = false → kind.isHost = true) := by
  cases kind with
  | custom command => cases hosts : command.host <;> simp [Kind.bodyRule, BodyRule.Admits, Kind.requiresBody, Kind.isHost, hosts]
  | _ => simp [Kind.bodyRule, BodyRule.Admits, Kind.requiresBody, Kind.isHost]

theorem host_of_requires_body (kind : Kind) (requires : kind.requiresBody = true) : kind.isHost = true := by
  cases kind <;> simp_all [Kind.requiresBody, Kind.isHost]

namespace Forest

section Block

variable {p : Playlist} {depth start : Nat} {command : Command} {body rest : Forest}

theorem preceded_body (placed : Placed p depth start (.cons command body rest)) :
    Preceded p (depth + 1) (start + 1) none := by
  have level := placed_indent placed
  intro host found
  rw [p.shallower_eq (depth + 1) (start + 1) start (by omega) (by omega) (by omega)] at found
  cases found
  omega

theorem preceded_rest (placed : Placed p depth start (.cons command body rest)) :
    Preceded p depth (start + 1 + body.size) (some command.kind) := by
  have level := placed_indent placed
  refine ⟨start, ?_, level, p.kind_of start command placed.lies.1⟩
  apply p.shallower_eq depth (start + 1 + body.size) start (by omega) (by omega)
  intro index after before
  exact placed_deeper placed index after (by omega)

theorem sound_at_block (placed : Placed p depth start (.cons command body rest)) (before : Option Kind)
    (preceded : Preceded p depth start before) :
    SoundAt p start ↔
      (command.kind.continues = true → mayFollow before command.kind = true) ∧ command.kind.bodyRule.Admits body := by
  have found := placed.lies.1
  have deeper : p.indentAt start < p.indentAt (start + 1) ↔ body.isEmpty = false := by
    rw [placed_indent placed]
    cases body with
    | nil =>
        have closed := placed_closed placed
        simp only [size, Nat.add_zero] at closed
        simpa [isEmpty] using closed
    | cons next inside others =>
        have level : p.indentAt (start + 1) = depth + 1 := placed_indent (placed_body placed)
        simp [isEmpty, level]
  rw [admits_iff]
  constructor
  · intro sound
    refine ⟨fun continues => ?_, fun requires => ?_, fun full => ?_⟩
    · have stands := sound.chain command found continues
      rw [misplaced_iff p depth start before command placed.lies.2.1 preceded] at stands
      simpa using stands
    · have enters := sound.body command found requires
      rw [placed_enters placed] at enters
      simpa [host_of_requires_body command.kind requires] using enters
    · rw [← p.host_of start command found]
      exact sound.host (deeper.mpr full)
  · rintro ⟨follows, requires, hosts⟩
    refine ⟨fun other here needs => ?_, fun other here continues => ?_, fun nested => ?_⟩
    · obtain rfl : command = other := Option.some.inj (found.symm.trans here)
      rw [placed_enters placed, host_of_requires_body command.kind needs, requires needs]
      rfl
    · obtain rfl : command = other := Option.some.inj (found.symm.trans here)
      rw [misplaced_iff p depth start before command placed.lies.2.1 preceded, follows continues]
      rfl
    · rw [p.host_of start command found]
      exact hosts (deeper.mp nested)

end Block

theorem sound_iff_follows (p : Playlist) (forest : Forest) (depth start : Nat) (before : Option Kind)
    (placed : Placed p depth start forest) (preceded : Preceded p depth start before) :
    (∀ index, start ≤ index → index < start + forest.size → SoundAt p index) ↔
      Follows before forest.kinds ∧ forest.Bodied := by
  induction forest generalizing depth start before with
  | nil => exact iff_of_true (fun index low high => by simp only [size] at high; omega) ⟨trivial, trivial⟩
  | cons command body rest bodyIh restIh =>
      have inner := bodyIh (depth + 1) (start + 1) none (placed_body placed) (preceded_body placed)
      have outer := restIh depth (start + 1 + body.size) (some command.kind) (placed_rest placed) (preceded_rest placed)
      have head := sound_at_block placed before preceded
      simp only [kinds, Follows, Bodied, row_iff_follows]
      constructor
      · intro sound
        have first := head.mp (sound start (by omega) (by simp only [size]; omega))
        have below := inner.mp fun index low high => sound index (by omega) (by simp only [size]; omega)
        have beside := outer.mp fun index low high => sound index (by omega) (by simp only [size]; omega)
        exact ⟨⟨first.1, beside.1⟩, first.2, below.1, below.2, beside.2⟩
      · rintro ⟨⟨follows, others⟩, admitted, chained, bodied, last⟩
        intro index low high
        simp only [size] at high
        by_cases first : index = start
        · subst index
          exact head.mpr ⟨follows, admitted⟩
        · by_cases inside : index < start + 1 + body.size
          · exact inner.mpr ⟨chained, bodied⟩ index (by omega) inside
          · exact outer.mpr ⟨others, last⟩ index (by omega) (by omega)

theorem placed_step (p : Playlist) (forest : Forest) (depth start index : Nat) (placed : Placed p depth start forest)
    (low : start ≤ index) (high : index < start + forest.size) : p.indentAt (index + 1) ≤ p.indentAt index + 1 := by
  induction forest generalizing depth start with
  | nil => simp only [size] at high; omega
  | cons command body rest bodyIh restIh =>
      simp only [size] at high
      by_cases first : index = start
      · subst index
        rw [placed_indent placed]
        cases body with
        | nil =>
            have closed := placed_closed placed
            simp only [size, Nat.add_zero] at closed
            omega
        | cons next inside others =>
            have level : p.indentAt (start + 1) = depth + 1 := placed_indent (placed_body placed)
            omega
      · by_cases inside : index < start + 1 + body.size
        · exact bodyIh (depth + 1) (start + 1) (placed_body placed) (by omega) inside
        · exact restIh depth (start + 1 + body.size) (placed_rest placed) (by omega) (by omega)

theorem accepted_iff_grammatical (p : Playlist) (forest : Forest) (spells : forest.Spells p.commands.toList) :
    p.Accepted ↔ forest.Grammatical := by
  have placed := placed_of_spells p forest spells
  have all := size_of_spells p forest spells
  have sound := sound_iff_follows p forest 0 0 none placed (preceded_first p)
  rw [← row_iff_follows] at sound
  constructor
  · intro accepted
    exact sound.mp fun index _ _ => ⟨accepted.body index, accepted.chain index, accepted.host index⟩
  · intro grammatical
    have first : p.indentAt 0 = 0 := by
      cases forest with
      | nil => exact p.indent_past 0 (by simp [← all, size])
      | cons command body rest => exact placed_indent placed
    have at_ (index : Nat) (inside : index < p.length) := sound.mpr grammatical index (Nat.zero_le _) (by omega)
    refine ⟨first, fun index => ?_, fun index nested => ?_, fun index command here => ?_, fun index command here => ?_⟩
    · by_cases inside : index < p.length
      · exact placed_step p forest 0 0 index placed (Nat.zero_le _) (by omega)
      · rw [p.indent_past (index + 1) (by omega)]
        exact Nat.zero_le _
    · have inside := p.indent_bound (index + 1) (by omega)
      exact (at_ index (by omega)).host nested
    · exact (at_ index (p.command_bound index command here)).body command here
    · exact (at_ index (p.command_bound index command here)).chain command here

theorem of_commands_spells (p : Playlist) (accepted : p.Accepted) :
    (ofCommands p.commands.toList).Spells p.commands.toList := by
  refine ⟨of_commands_commands _, of_commands_indented _ 0 ?_ ?_ fun _ _ => Nat.zero_le _⟩
  · refine List.isChain_iff_getElem.mpr fun index inside => ?_
    have bound : index + 1 < p.commands.size := by simpa using inside
    have step := accepted.step index
    rw [p.indent_of (index + 1) _ (Array.getElem?_eq_getElem bound),
      p.indent_of index _ (Array.getElem?_eq_getElem (Nat.lt_of_succ_lt bound))] at step
    simpa using step
  · intro command found
    have first := accepted.first
    have here : p.command? 0 = some command := by
      simpa [Playlist.command?, List.head?_eq_getElem?] using found
    rwa [p.indent_of 0 command here] at first

end Forest

theorem build_accepts_grammar (script : String) (commands : List Command) :
    ((∃ p, Playlist.build script commands = .ok p) ↔
      ∃ forest : Forest, forest.Spells commands ∧ forest.Grammatical) ∧
    ∀ a b : Forest, a.Spells commands → b.Spells commands → a = b := by
  refine ⟨⟨?_, ?_⟩, fun a b => Forest.spells_unique a b commands⟩
  · rintro ⟨p, built⟩
    obtain ⟨rfl, accepted⟩ := (Playlist.build_ok_iff script commands p).mp built
    have spells := Forest.of_commands_spells _ accepted
    exact ⟨_, spells, (Forest.accepted_iff_grammatical _ _ spells).mp accepted⟩
  · rintro ⟨forest, spells, grammatical⟩
    have accepted := (Forest.accepted_iff_grammatical ⟨script, commands.toArray⟩ forest spells).mpr grammatical
    exact ⟨_, (Playlist.build_ok_iff script commands _).mpr ⟨rfl, accepted⟩⟩

end Storyline
