import SqlBatch.Proofs.Tree.Success

/-!
# Operators between expressions

Two expressions with an operator between them render if both of them do. Otherwise they do not,
but for an operation that lacks its second operand and gets it: `chain_renders_iff`.
-/
namespace SqlBatch

namespace Layout

theorem fails_marks {layout : Layout} : layout.marks.Fails ↔ layout.Fails :=
  exists_congr fun _ => mem_marks_failure

theorem fails_separated {separator : String} {layouts : List Layout} :
    (separated separator layouts).Fails ↔ ∃ layout ∈ layouts, layout.Fails := by
  rw [← fails_marks, marks_separated]
  constructor
  · rintro ⟨e, member⟩
    obtain ⟨layout, listed, failure⟩ := List.mem_flatMap.mp member
    exact ⟨layout, listed, e, mem_marks_failure.mp failure⟩
  · rintro ⟨layout, listed, e, failure⟩
    exact ⟨e, List.mem_flatMap.mpr ⟨layout, listed, mem_marks_failure.mpr failure⟩⟩

theorem fails_parenthesizedIf {wanted : Bool} {inner : Layout} :
    (parenthesizedIf wanted inner).Fails ↔ inner.Fails := by
  rw [← fails_marks, marks_parenthesizedIf, fails_marks]

end Layout

namespace Expr

variable {ctx : Context}

/-- A context writes an expression to its end. -/
def RendersIn (ctx : Context) (e : Expr) : Prop := (ctx.emit (e.layout ctx.dialect)).2 = .ok ()

instance (e : Expr) : Decidable (e.RendersIn ctx) :=
  inferInstanceAs (Decidable ((ctx.emit (e.layout ctx.dialect)).2 = .ok ()))

theorem rendersIn_iff {e : Expr} : e.RendersIn ctx ↔ ¬(e.layout ctx.dialect).Fails := by
  rw [RendersIn, Context.outcome_emit, Layout.outcome, ← Layout.failure?_eq_none]
  cases (e.layout ctx.dialect).failure? <;> simp

/-- An operation renders with as many operands as its operator allows, if each of them does. -/
theorem rendersIn_operation {op : Operator} {operands : List Expr} :
    RendersIn ctx (.operation op operands) ↔
      op.allows operands.length = true ∧ ∀ e ∈ operands, e.RendersIn ctx := by
  rw [rendersIn_iff, layout, operandLayouts_eq_map, Operator.layout, List.length_map]
  by_cases allowed : op.allows operands.length = true
  · rw [if_pos allowed, Layout.fails_separated]
    simp [Layout.fails_parenthesizedIf, rendersIn_iff, allowed]
  · simp [allowed]

theorem allows_pair (op : Operator) : op.allows 2 = true := by
  cases op <;> rfl

theorem allows_of_isVariadic {op : Operator} (variadic : op.isVariadic = true) (operands : Nat) :
    op.allows operands = true ↔ 2 ≤ operands := by
  simp [Operator.allows, variadic]

/-- An operation takes a further operand in. -/
theorem rendersIn_chain_operation {op : Operator} (variadic : op.isVariadic = true)
    (operands : List Expr) (right : Expr) :
    RendersIn ctx (chain op (.operation op operands) right) ↔
      operands ≠ [] ∧ (∀ e ∈ operands, e.RendersIn ctx) ∧ right.RendersIn ctx := by
  have grown : chain op (.operation op operands) right = .operation op (operands ++ [right]) := by
    simp [chain, variadic]
  have length : 2 ≤ (operands ++ [right]).length ↔ operands ≠ [] := by
    rw [List.length_append, List.length_singleton, ← List.length_pos_iff]
    omega
  rw [grown, rendersIn_operation, allows_of_isVariadic variadic, length, List.forall_mem_append,
    List.forall_mem_singleton]

theorem rendersIn_chain_other {op : Operator} {left : Expr}
    (apart : ∀ operands, left = .operation op operands → op.isVariadic = false) (right : Expr) :
    RendersIn ctx (chain op left right) ↔ left.RendersIn ctx ∧ right.RendersIn ctx := by
  have joined : chain op left right = .operation op [left, right] := by
    unfold chain
    split
    · rename_i leftOp operands
      refine if_neg fun ⟨same, variadic⟩ => ?_
      subst same
      rw [apart operands rfl] at variadic
      cases variadic
    · rfl
  rw [joined, rendersIn_operation]
  simp [allows_pair]

end Expr

/-- In any context, an operator between two expressions renders exactly if the right one does and
the left one does, or is an operation of that operator whose only operand does. -/
theorem chain_renders_iff (ctx : Context) (op : Operator) (left right : Expr) :
    (left.chain op right).RendersIn ctx ↔
      right.RendersIn ctx ∧
        (left.RendersIn ctx ∨ op.isVariadic = true ∧
          ∃ operand, left = .operation op [operand] ∧ operand.RendersIn ctx) := by
  by_cases grows : op.isVariadic = true ∧ ∃ operands, left = .operation op operands
  · obtain ⟨variadic, operands, rfl⟩ := grows
    rw [Expr.rendersIn_chain_operation variadic, Expr.rendersIn_operation,
      Expr.allows_of_isVariadic variadic]
    -- With no operand the chain has one, with one operand only the chain has enough of them.
    rcases operands with _ | ⟨first, _ | ⟨second, rest⟩⟩
    · simp
    · simp [variadic, and_comm]
    · simp [and_comm]
  · have apart : ∀ operands, left = .operation op operands → op.isVariadic = false := by
      intro operands same
      exact Bool.eq_false_iff.mpr fun variadic => grows ⟨variadic, operands, same⟩
    rw [Expr.rendersIn_chain_other apart]
    constructor
    · rintro ⟨former, latter⟩
      exact ⟨latter, .inl former⟩
    · rintro ⟨latter, former | ⟨variadic, operand, same, -⟩⟩
      · exact ⟨former, latter⟩
      · exact absurd ⟨variadic, [operand], same⟩ grows

/-- A sum of one operand is refused, and becomes one of two. -/
theorem lone_operand_completed :
    let left : Expr := .operation .add [.col "a"]
    let right : Expr := .col "b"
    let render (e : Expr) := (e.layout .generic).render .generic
    render left = .error (.operatorArity "+" "at least 2" 1) ∧
      render right = .ok ⟨"b", {}, 0⟩ ∧ render (left.chain .add right) = .ok ⟨"a + b", {}, 0⟩ ∧
      let ctx : Context := { dialect := .generic }
      ¬((left.chain .add right).RendersIn ctx ↔ left.RendersIn ctx ∧ right.RendersIn ctx) := by
  intro left right render
  refine ⟨by decide +kernel, by decide +kernel, by decide +kernel, ?_⟩
  intro ctx alike
  have together : (left.chain .add right).RendersIn ctx := by decide +kernel
  have alone : ¬left.RendersIn ctx := by decide +kernel
  exact alone (alike.mp together).1

end SqlBatch
