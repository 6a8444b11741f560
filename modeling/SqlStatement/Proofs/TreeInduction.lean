import SqlStatement.Tree
import Mathlib.Tactic

/-!
# Induction on expressions and conditions

A statement in parentheses is a scope of its own, so that properties of a
scope are shown by going from the arguments of a call to the call, and from
the operands of a connective to the condition, and stop at a statement.
-/

namespace SqlStatement

@[elab_as_elim]
theorem Expr.inductionOn {motive : Expr → Prop} (expr : Expr)
    (column : ∀ c, motive (.column c))
    (raw : ∀ text, motive (.raw text))
    (asterisk : ∀ table, motive (.asterisk table))
    (subSelect : ∀ select, motive (.subSelect select))
    (literal : ∀ value, motive (.literal value))
    (bind : ∀ name, motive (.bind name))
    (function : ∀ name args, (∀ arg ∈ args, motive arg) →
      motive (.function name args)) :
    motive expr := by
  cases expr with
  | column c => exact column c
  | raw text => exact raw text
  | asterisk table => exact asterisk table
  | subSelect select => exact subSelect select
  | literal value => exact literal value
  | bind name => exact bind name
  | function name args =>
      apply function name args
      intro arg hmem
      have hlt := List.sizeOf_lt_of_mem hmem
      exact Expr.inductionOn arg column raw asterisk subSelect literal bind
        function
termination_by sizeOf expr
decreasing_by
  simp only [Expr.function.sizeOf_spec]
  omega

@[elab_as_elim]
theorem Condition.inductionOn {motive : Condition → Prop}
    (condition : Condition)
    (comparison : ∀ left comparator right,
      motive (.comparison left comparator right))
    (like : ∀ left right, motive (.like left right))
    (inList : ∀ left args negated, motive (.inList left args negated))
    (isNull : ∀ operand negated, motive (.isNull operand negated))
    (nested : ∀ inner, motive inner → motive (.nested inner))
    (raw : ∀ text, motive (.raw text))
    (and : ∀ left right, motive left → motive right → motive (.and left right))
    (or : ∀ left right, motive left → motive right → motive (.or left right))
    (not : ∀ inner, motive inner → motive (.not inner)) :
    motive condition := by
  have hrec : ∀ inner : Condition, sizeOf inner < sizeOf condition →
      motive inner := fun inner hlt =>
    Condition.inductionOn inner comparison like inList isNull nested raw and or
      not
  cases condition with
  | comparison left comparator right => exact comparison left comparator right
  | like left right => exact like left right
  | inList left args negated => exact inList left args negated
  | isNull operand negated => exact isNull operand negated
  | raw text => exact raw text
  | nested inner =>
      exact nested inner (hrec inner (by simp))
  | and left right =>
      exact and left right (hrec left (by simp; omega)) (hrec right (by simp))
  | or left right =>
      exact or left right (hrec left (by simp; omega)) (hrec right (by simp))
  | not inner =>
      exact not inner (hrec inner (by simp))
termination_by sizeOf condition

end SqlStatement
