import SqlStatement.Tree
import Mathlib.Tactic

/-!
# The scope of a statement

A statement in parentheses is a scope of its own.  The expressions in the
scope of a tree are those that stand in it at any depth, in writing order and
without what stands in the statements in parentheses among them; these
statements are the sub-selects of the tree.

The definitions follow the syntax of the trees, not the way in which a walk
goes through them.
-/

namespace SqlStatement

mutual

/-- The expression itself and, if it is a call, the scope of its arguments. -/
def Expr.scope : Expr → List Expr
  | .function f args => .function f args :: Expr.listScope args
  | .column c => [.column c]
  | .raw text => [.raw text]
  | .asterisk t => [.asterisk t]
  | .subSelect s => [.subSelect s]
  | .literal value => [.literal value]
  | .bind name => [.bind name]

def Expr.listScope : List Expr → List Expr
  | [] => []
  | expr :: exprs => Expr.scope expr ++ Expr.listScope exprs

end

theorem Expr.listScope_eq_flatMap (exprs : List Expr) :
    Expr.listScope exprs = exprs.flatMap Expr.scope :=
  eq_flatMap_of_cons Expr.listScope rfl (fun _ _ => rfl) exprs

theorem Expr.mem_scope_self (expr : Expr) : expr ∈ expr.scope := by
  cases expr <;> simp [scope]

def Condition.scope : Condition → List Expr
  | .comparison left _ right => left.scope ++ right.scope
  | .like left right => left.scope ++ right.scope
  | .inList left args _ => left.scope ++ args.flatMap Expr.scope
  | .isNull operand _ => operand.scope
  | .nested inner => inner.scope
  | .raw _ => []
  | .and left right => left.scope ++ right.scope
  | .or left right => left.scope ++ right.scope
  | .not inner => inner.scope

/-- The condition itself and the conditions in it. -/
def Condition.parts : Condition → List Condition
  | .nested inner => .nested inner :: inner.parts
  | .and left right => .and left right :: left.parts ++ right.parts
  | .or left right => .or left right :: left.parts ++ right.parts
  | .not inner => .not inner :: inner.parts
  | .comparison left comparator right => [.comparison left comparator right]
  | .like left right => [.like left right]
  | .inList left args negated => [.inList left args negated]
  | .isNull operand negated => [.isNull operand negated]
  | .raw text => [.raw text]

/-- The expressions in the select list, the ON conditions, the WHERE and the
ORDER BY. -/
def Select.scope (select : Select) : List Expr :=
  select.items.flatMap Expr.scope ++
    select.joins.flatMap (Condition.scope ∘ Join.on) ++
    select.filter.toList.flatMap Condition.scope ++
    select.order.flatMap (Expr.scope ∘ OrderField.expr)

def Select.conditions (select : Select) : List Condition :=
  select.joins.flatMap (Condition.parts ∘ Join.on) ++
    select.filter.toList.flatMap Condition.parts

/-! ## Sub-selects -/

def Expr.subSelect? : Expr → Option Select
  | .subSelect select => some select
  | _ => none

def Expr.subSelects (expr : Expr) : List Select :=
  expr.scope.filterMap Expr.subSelect?

def Condition.subSelects (condition : Condition) : List Select :=
  condition.scope.filterMap Expr.subSelect?

def Select.subSelects (select : Select) : List Select :=
  select.scope.filterMap Expr.subSelect?

/-- A statement stands in another one at some depth, or is that one. -/
inductive Select.Within : Select → Select → Prop where
  | self (select : Select) : Within select select
  | deeper {inner sub select : Select} (hsub : sub ∈ select.subSelects)
      (hinner : Within inner sub) : Within inner select

end SqlStatement
