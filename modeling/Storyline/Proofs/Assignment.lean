import Storyline.Player.Flight
import Storyline.Proofs.Tables

set_option autoImplicit false

/-!
Assignments. A compound assignment takes its right side first and the old value after it, the expression that it stands for
takes them the other way round. Neither changes anything, so the order shows only in what is reported where both fail. An
assignment that fails leaves the whole player as it was.
-/

namespace Storyline

theorem AssignOp.binary_symbol (op : AssignOp) (combine : BinaryOp) (compound : op.binary? = some combine) :
    op.symbol = combine.symbol ++ "=" := by
  cases op <;> cases compound <;> rfl

namespace Variables

theorem put_places : Tables.Places Prod.fst fun entry : String × Value => insertEntry entry.1 entry.2 :=
  ⟨fun _ => rfl, fun _ _ _ => rfl⟩

theorem get_set (store : Variables) (name other : String) (value : Value) :
    (store.set name value).get? other = if other = name then some value else store.get? other := by
  rw [get?, set, Tables.find_put put_places (name, value)]
  by_cases same : other = name
  · simp [same]
  · simp [same, Ne.symm same, get?]

theorem assign_ok_iff (store : Variables) (name : String) (op : AssignOp) (value : Expr) (done : Value × Variables) :
    store.assign name op value = .ok done ↔
      ∃ result, store.assigned name op value = .ok result ∧ done = (result, store.set name result) := by
  rw [assign]
  cases store.assigned name op value with
  | ok result => simp [Except.map, eq_comm]
  | error cause => simp [Except.map]

theorem assigned_desugars (store : Variables) (name : String) (op : AssignOp) (combine : BinaryOp)
    (compound : op.binary? = some combine) (value : Expr) (result : Value) :
    store.assigned name op value = .ok result ↔
      store.assigned name .assign (.binary combine (.var name) value) = .ok result := by
  have spelled : (Expr.binary combine (.var name) value).eval store.get? =
      ((Expr.var name).eval store.get?).bind fun left => (value.eval store.get?).bind (Expr.apply combine left) := by
    cases op <;> cases compound <;> rfl
  rw [assigned, assigned, spelled, compound, Expr.eval]
  cases store.get? name with
  | none => cases value.eval store.get? <;> simp [Except.bind]
  | some left =>
      cases value.eval store.get? with
      | error cause => simp [Except.bind]
      | ok right =>
          simp only [Except.bind, AssignOp.binary?]
          cases Expr.apply combine left right <;> exact Iff.rfl

theorem compound_assignment_desugars (store : Variables) (name : String) (op : AssignOp) (combine : BinaryOp)
    (compound : op.binary? = some combine) (value : Expr) :
    op.symbol = combine.symbol ++ "=" ∧
    (∀ done, store.assign name op value = .ok done ↔
      store.assign name .assign (.binary combine (.var name) value) = .ok done) ∧
    ∀ form operand,
      (∀ result changed, store.assign name form operand = .ok (result, changed) →
        changed.get? name = some result ∧ ∀ other, other ≠ name → changed.get? other = store.get? other) ∧
      ∀ (execution : Execution) (player : Player), player.store = store →
        (∀ result changed, store.assign name form operand = .ok (result, changed) →
          execution.perform (.assign name form operand) player = (.going execution, { player with store := changed })) ∧
        (∀ cause, store.assign name form operand = .error cause →
          execution.perform (.assign name form operand) player = (.ended (.error (.expr cause)), player)) := by
  refine ⟨op.binary_symbol combine compound, fun done => ?_, fun form operand => ⟨fun result changed stored => ?_, ?_⟩⟩
  · simp only [assign_ok_iff, assigned_desugars store name op combine compound value]
  · obtain ⟨_, _, same⟩ := (assign_ok_iff store name form operand _).mp stored
    obtain ⟨rfl, rfl⟩ := Prod.mk.inj same
    refine ⟨by rw [get_set, if_pos rfl], fun other different => ?_⟩
    rw [get_set, if_neg different]
  · rintro execution player rfl
    refine ⟨fun result changed stored => ?_, fun cause failed => ?_⟩
    · simp only [Execution.perform, stored, Execution.proceed]
    · simp only [Execution.perform, failed]

-- A text that is appended to itself.
theorem doubled_text_desugars :
    AssignOp.binary? .add = some .add ∧
      assign ⟨[("echo", .text "ho")]⟩ "echo" .assign (.binary .add (.var "echo") (.var "echo")) =
        .ok (.text "hoho", ⟨[("echo", .text "hoho")]⟩) :=
  ⟨rfl, ((compound_assignment_desugars ⟨[("echo", .text "ho")]⟩ "echo" .add .add rfl (.var "echo")).2.1 _).mp (by rfl)⟩

end Variables

end Storyline
