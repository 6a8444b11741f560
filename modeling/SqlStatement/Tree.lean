import SqlStatement.Comparator
import SqlStatement.Literal
import SqlStatement.Table

/-!
# Statement trees

Expressions, conditions and statements refer to each other: a statement is an
expression when it stands in parentheses, and conditions compare expressions.
The trees themselves promise nothing; `Draft.build` is what makes a statement
that was checked.
-/

namespace SqlStatement

inductive Direction where
  | asc
  | desc
deriving DecidableEq

def Direction.sql : Direction → String
  | asc => "ASC"
  | desc => "DESC"

/-- Where ORDER BY puts the rows without a value. -/
inductive NullOrder where
  | first
  | last
deriving DecidableEq

def NullOrder.sql : NullOrder → String
  | first => "NULLS FIRST"
  | last => "NULLS LAST"

inductive JoinKind where
  | inner
  | leftOuter
  | rightOuter
  | fullOuter
deriving DecidableEq

def JoinKind.sql : JoinKind → String
  | inner => "JOIN"
  | leftOuter => "LEFT OUTER JOIN"
  | rightOuter => "RIGHT OUTER JOIN"
  | fullOuter => "FULL OUTER JOIN"

mutual

inductive Expr where
  | column (column : Column)
  /-- Text that goes into the statement as it stands. -/
  | raw (text : String)
  /-- All columns, or all columns of one table. -/
  | asterisk (table : Option Table)
  | subSelect (select : Select)
  | literal (value : Literal)
  /-- The place of a value that is supplied when the statement is run. -/
  | bind (name : Option Identifier)
  | function (name : String) (args : List Expr)

inductive Condition where
  | comparison (left : Expr) (comparator : Comparator) (right : Expr)
  | like (left right : Expr)
  | inList (left : Expr) (args : List Expr) (negated : Bool)
  | isNull (operand : Expr) (negated : Bool)
  /-- A condition that was put in parentheses on purpose. -/
  | nested (inner : Condition)
  | raw (text : String)
  | and (left right : Condition)
  | or (left right : Condition)
  | not (inner : Condition)

structure OrderField where
  expr : Expr
  direction : Option Direction
  nulls : Option NullOrder

structure Join where
  kind : JoinKind
  table : Table
  on : Condition

structure Select where
  distinct : Bool
  items : List Expr
  tables : List Table
  joins : List Join
  filter : Option Condition
  order : List OrderField
  limit : Option UInt64
  offset : Option UInt64

end

/-- The name of the alternative an expression belongs to. -/
def Expr.kind : Expr → String
  | column _ => "Column"
  | raw _ => "RawExpression"
  | asterisk none => "Asterisk"
  | asterisk (some _) => "AsteriskFromTable"
  | subSelect _ => "SubSelectExpression"
  | literal _ => "Literal"
  | bind _ => "BindMarker"
  | function _ _ => "Function"

def Condition.kind : Condition → String
  | comparison _ _ _ => "Comparison"
  | like _ _ => "Like"
  | inList _ _ _ => "In"
  | isNull _ _ => "IsNull"
  | nested _ => "NestedCondition"
  | raw _ => "ConstantCondition"
  | and _ _ => "AndCondition"
  | or _ _ => "OrCondition"
  | not _ => "Not"

/-! ## Companions

A function on trees that goes through lists of them, or through a tree that may
be missing, is defined together with companions for these.  A companion is told
by its equations. -/

section Companions

variable {α β : Type}

theorem eq_map_of_cons {f : α → β} (g : List α → List β) (hnil : g [] = [])
    (hcons : ∀ a as, g (a :: as) = f a :: g as) (as : List α) :
    g as = as.map f := by
  induction as with
  | nil => exact hnil
  | cons a as ih => rw [hcons, ih, List.map_cons]

theorem eq_flatMap_of_cons {f : α → List β} (g : List α → List β)
    (hnil : g [] = []) (hcons : ∀ a as, g (a :: as) = f a ++ g as)
    (as : List α) : g as = as.flatMap f := by
  induction as with
  | nil => exact hnil
  | cons a as ih => rw [hcons, ih, List.flatMap_cons]

theorem eq_map_of_some {f : α → β} (g : Option α → Option β)
    (hnone : g none = none) (hsome : ∀ a, g (some a) = some (f a))
    (a? : Option α) : g a? = a?.map f := by
  cases a? with
  | none => exact hnone
  | some a => exact hsome a

theorem eq_beq_of_cons [BEq α] (g : List α → List α → Bool)
    (hnil : g [] [] = true) (hleft : ∀ a as, g (a :: as) [] = false)
    (hright : ∀ b bs, g [] (b :: bs) = false)
    (hcons : ∀ a as b bs, g (a :: as) (b :: bs) = (a == b && g as bs))
    (as bs : List α) : g as bs = (as == bs) := by
  induction as generalizing bs with
  | nil =>
      cases bs with
      | nil => exact hnil
      | cons b bs => exact hright b bs
  | cons a as ih =>
      cases bs with
      | nil => exact hleft a as
      | cons b bs => rw [hcons, ih, List.cons_beq_cons]

end Companions

end SqlStatement
