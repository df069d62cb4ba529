import Mathlib.Data.List.Chain
import Mathlib.Data.List.TakeWhile
import Storyline.Proofs.Layout

set_option autoImplicit false

/-!
Playlists as forests of blocks. A forest is a row of blocks, each with the row nested in it; spelled out in preorder, with
the depth of every block as its indentation, it is a list of commands. A list spells out at most one forest, and exactly one
if its indentation starts at zero and never grows by more than one level.
-/

namespace Storyline

inductive Forest where
  | nil
  | cons (command : Command) (body rest : Forest)

namespace Forest

def size : Forest → Nat
  | .nil => 0
  | .cons _ body rest => 1 + body.size + rest.size

def isEmpty : Forest → Bool
  | .nil => true
  | .cons .. => false

def commands : Forest → List Command
  | .nil => []
  | .cons command body rest => command :: (body.commands ++ rest.commands)

def Indented : Nat → Forest → Prop
  | _, .nil => True
  | depth, .cons command body rest =>
      command.indent = depth ∧ body.Indented (depth + 1) ∧ rest.Indented depth

-- The forest that a list of commands spells out.
def Spells (forest : Forest) (commands : List Command) : Prop := forest.commands = commands ∧ forest.Indented 0

theorem commands_length (forest : Forest) : forest.commands.length = forest.size := by
  induction forest with
  | nil => rfl
  | cons command body rest bodyIh restIh =>
      simp only [commands, size, List.length_cons, List.length_append, bodyIh, restIh]
      omega

theorem commands_depth (forest : Forest) (depth : Nat) (indented : forest.Indented depth) :
    ∀ command ∈ forest.commands, depth ≤ command.indent := by
  induction forest generalizing depth with
  | nil => simp [commands]
  | cons command body rest bodyIh restIh =>
      obtain ⟨here, below, beside⟩ := indented
      intro other member
      simp only [commands, List.mem_cons, List.mem_append] at member
      rcases member with rfl | inner | outer
      · omega
      · have deeper := bodyIh (depth + 1) below other inner
        omega
      · exact restIh depth beside other outer

theorem body_run (body rest : Forest) (depth : Nat) (below : body.Indented (depth + 1)) (beside : rest.Indented depth) :
    (body.commands ++ rest.commands).takeWhile (fun command => decide (depth < command.indent)) = body.commands ∧
      (body.commands ++ rest.commands).dropWhile (fun command => decide (depth < command.indent)) = rest.commands := by
  have inner : ∀ command ∈ body.commands, decide (depth < command.indent) = true := by
    intro command member
    exact decide_eq_true (commands_depth body (depth + 1) below command member)
  rw [List.takeWhile_append_of_pos inner, List.dropWhile_append_of_pos inner]
  cases rest with
  | nil => simp [commands]
  | cons command inside others => simp [commands, beside.1]

theorem commands_injective (a b : Forest) (depth : Nat) (left : a.Indented depth) (right : b.Indented depth)
    (same : a.commands = b.commands) : a = b := by
  induction a generalizing b depth with
  | nil =>
      cases b with
      | nil => rfl
      | cons command body rest => simp [commands] at same
  | cons command body rest bodyIh restIh =>
      cases b with
      | nil => simp [commands] at same
      | cons other inside others =>
          obtain ⟨rfl, tails⟩ := List.cons.inj same
          have runA := body_run body rest depth left.2.1 left.2.2
          have runB := body_run inside others depth right.2.1 right.2.2
          rw [tails] at runA
          rw [bodyIh inside (depth + 1) left.2.1 right.2.1 (runA.1.symm.trans runB.1),
            restIh others depth left.2.2 right.2.2 (runA.2.symm.trans runB.2)]

theorem spells_unique (a b : Forest) (commands : List Command) (left : a.Spells commands) (right : b.Spells commands) :
    a = b :=
  commands_injective a b 0 left.2 right.2 (left.1.trans right.1.symm)

-- Splits a list into blocks by indentation alone, whatever its indentation is.
def ofCommands : List Command → Forest
  | [] => .nil
  | command :: others =>
      .cons command (ofCommands (others.takeWhile fun other => decide (command.indent < other.indent)))
        (ofCommands (others.dropWhile fun other => decide (command.indent < other.indent)))
termination_by list => list.length
decreasing_by
  · exact Nat.lt_succ_of_le (List.takeWhile_prefix _).length_le
  · exact Nat.lt_succ_of_le (List.dropWhile_suffix _).length_le

theorem of_commands_commands (list : List Command) : (ofCommands list).commands = list := by
  induction list using ofCommands.induct with
  | case1 => simp [ofCommands, commands]
  | case2 command others bodyIh restIh =>
      rw [ofCommands, commands, bodyIh, restIh, List.takeWhile_append_dropWhile]

def Gentle (list : List Command) : Prop := list.IsChain fun before after => after.indent ≤ before.indent + 1

theorem of_commands_indented (list : List Command) (depth : Nat) (gentle : Gentle list)
    (starts : ∀ command ∈ list.head?, command.indent = depth) (deep : ∀ command ∈ list, depth ≤ command.indent) :
    (ofCommands list).Indented depth := by
  induction list using ofCommands.induct generalizing depth with
  | case1 => simp [ofCommands, Indented]
  | case2 command others bodyIh restIh =>
      have here : command.indent = depth := starts command rfl
      obtain ⟨step, after⟩ := List.isChain_cons.mp gentle
      rw [ofCommands]
      refine ⟨here, bodyIh (depth + 1) ?_ ?_ ?_, restIh depth ?_ ?_ ?_⟩
      · exact after.prefix (List.takeWhile_prefix _)
      · intro first found
        have member : first ∈ others.takeWhile _ := List.mem_of_mem_head? found
        have deeper := List.mem_takeWhile_imp member
        have head : first ∈ others.head? := by
          cases others with
          | nil => simp at member
          | cons next more =>
              by_cases inner : command.indent < next.indent
              · simpa [inner] using found
              · simp [inner] at member
        have close := step first head
        simp only [decide_eq_true_eq] at deeper
        omega
      · intro inner member
        have deeper := List.mem_takeWhile_imp member
        simp only [decide_eq_true_eq] at deeper
        omega
      · exact after.suffix (List.dropWhile_suffix _)
      · intro first found
        have shallow := List.head?_dropWhile_not (fun other => decide (command.indent < other.indent)) others
        rw [Option.mem_def.mp found] at shallow
        have member : first ∈ others := (List.dropWhile_suffix _).mem (List.mem_of_mem_head? found)
        have low := deep first (List.mem_cons_of_mem command member)
        simp only [decide_eq_false_iff_not] at shallow
        omega
      · intro outer member
        exact deep outer (List.mem_cons_of_mem command ((List.dropWhile_suffix _).mem member))

-- The blocks stand in a playlist one after another, from an index on.
def Lies (p : Playlist) : Nat → Nat → Forest → Prop
  | _, _, .nil => True
  | depth, start, .cons command body rest =>
      p.command? start = some command ∧ command.indent = depth ∧ body.Lies p (depth + 1) (start + 1) ∧
        rest.Lies p depth (start + 1 + body.size)

theorem lies_of_commands (p : Playlist) (forest : Forest) (depth : Nat) (before after : List Command)
    (spelled : p.commands.toList = before ++ (forest.commands ++ after)) (indented : forest.Indented depth) :
    forest.Lies p depth before.length := by
  induction forest generalizing depth before after with
  | nil => trivial
  | cons command body rest bodyIh restIh =>
      refine ⟨?_, indented.1, ?_, ?_⟩
      · simp [Playlist.command?, ← Array.getElem?_toList, spelled, commands]
      · have inner := bodyIh (depth + 1) (before ++ [command]) (rest.commands ++ after)
          (by simp [spelled, commands]) indented.2.1
        simpa using inner
      · have outer := restIh depth (before ++ command :: body.commands) after
          (by simp [spelled, commands]) indented.2.2
        simpa [commands_length, Nat.add_assoc, Nat.add_comm 1] using outer

theorem lies_depth {p : Playlist} {forest : Forest} {depth start index : Nat} (lies : forest.Lies p depth start)
    (low : start ≤ index) (high : index < start + forest.size) : index < p.length ∧ depth ≤ p.indentAt index := by
  induction forest generalizing depth start with
  | nil => simp only [size] at high; omega
  | cons command body rest bodyIh restIh =>
      obtain ⟨found, here, below, beside⟩ := lies
      simp only [size] at high
      by_cases first : index = start
      · subst index
        exact ⟨p.command_bound start command found, by rw [p.indent_of start command found, here]⟩
      · by_cases inner : index < start + 1 + body.size
        · have deeper := bodyIh below (by omega) inner
          exact ⟨deeper.1, by omega⟩
        · exact restIh beside (by omega) (by omega)

-- A whole row: what follows its blocks is shallower, or the list is over.
structure Placed (p : Playlist) (depth start : Nat) (forest : Forest) : Prop where
  lies : forest.Lies p depth start
  ends : p.length ≤ start + forest.size ∨ p.indentAt (start + forest.size) < depth

theorem placed_of_spells (p : Playlist) (forest : Forest) (spells : forest.Spells p.commands.toList) :
    Placed p 0 0 forest := by
  refine ⟨lies_of_commands p forest 0 [] [] (by simp [spells.1]) spells.2, .inl ?_⟩
  rw [← commands_length, spells.1, Nat.zero_add]
  exact Nat.le_refl _

theorem size_of_spells (p : Playlist) (forest : Forest) (spells : forest.Spells p.commands.toList) :
    forest.size = p.length := by
  rw [← commands_length, spells.1]
  rfl

section Block

variable {p : Playlist} {depth start : Nat} {command : Command} {body rest : Forest}
  (placed : Placed p depth start (.cons command body rest))
include placed

theorem placed_rest : Placed p depth (start + 1 + body.size) rest := by
  have ends := placed.ends
  simp only [size, ← Nat.add_assoc] at ends
  exact ⟨placed.lies.2.2.2, ends⟩

theorem placed_closed : p.indentAt (start + 1 + body.size) ≤ depth := by
  have outer := placed_rest placed
  cases rest with
  | nil =>
      rcases outer.ends with past | shallow
      · have flat : p.indentAt (start + 1 + body.size) = 0 := p.indent_past _ past
        omega
      · exact Nat.le_of_lt shallow
  | cons next inside others =>
      rw [p.indent_of _ next outer.lies.1, outer.lies.2.1]

theorem placed_body : Placed p (depth + 1) (start + 1) body :=
  ⟨placed.lies.2.2.1, .inr (Nat.lt_succ_of_le (placed_closed placed))⟩

theorem placed_indent : p.indentAt start = depth := by
  rw [p.indent_of start command placed.lies.1, placed.lies.2.1]

theorem placed_bound : start + body.size < p.length := by
  by_cases empty : body.size = 0
  · have here := p.command_bound start command placed.lies.1
    omega
  · exact (lies_depth placed.lies.2.2.1 (by omega) (by omega)).1

theorem placed_deeper (index : Nat) (after : start < index)
    (upto : index ≤ start + body.size) : depth < p.indentAt index :=
  (lies_depth placed.lies.2.2.1 after (by omega)).2

theorem placed_exit_index : p.exitIndex start depth = start + body.size :=
  p.exit_index_eq start (start + body.size) depth (by omega) (placed_bound placed) (placed_deeper placed)
    (by simpa only [Nat.add_right_comm] using placed_closed placed)

theorem placed_host_at (hosts : command.kind.isHost = true)
    (index : Nat) (after : start < index) (upto : index ≤ start + body.size) : p.hostAt index depth = .ok start := by
  have bound := placed_bound placed
  have found := p.host_at_eq index start (by omega) after (by rw [p.host_of start command placed.lies.1, hosts])
    (fun other above below => by
      rw [placed_indent placed]
      exact placed_deeper placed other above (by omega))
  simpa only [placed_indent placed] using found

theorem placed_enters : p.enters start = (command.kind.isHost && !body.isEmpty) := by
  rw [Bool.eq_iff_iff, p.enters_iff, p.host_of start command placed.lies.1, placed_indent placed]
  cases body with
  | nil =>
      have closed := placed_closed placed
      simp only [size, Nat.add_zero] at closed
      simpa [isEmpty] using fun _ => closed
  | cons next inside others =>
      have deeper : p.indentAt (start + 1) = depth + 1 := placed_indent (placed_body placed)
      simp [isEmpty, deeper]

end Block

end Forest

end Storyline
