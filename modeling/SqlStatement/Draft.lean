import SqlStatement.Imports
import SqlStatement.Shape

/-!
# Drafts of statements

A builder is given the parts of a statement: the select list first, then the
FROM, and then all the others in any order.  As soon as it has the first two it
is a draft, which grows step by step and becomes a statement when it passes the
checks.
-/

namespace SqlStatement

/-- Whether a builder was given a part yet. -/
inductive Presence where
  | missing
  | given

/-- The parts of a statement that was not checked yet.  The indices say whether
the select list and the FROM are among them. -/
structure Builder (list source : Presence) where
  distinct : Bool
  items : List Expr
  tables : List Table
  joins : List Join
  filter : Option Condition
  order : List OrderField
  limit : Option UInt64
  offset : Option UInt64

namespace Builder

def empty : Builder .missing .missing where
  distinct := false
  items := []
  tables := []
  joins := []
  filter := none
  order := []
  limit := none
  offset := none

def withItems (builder : Builder .missing .missing) (items : List Expr) :
    Builder .given .missing where
  distinct := builder.distinct
  items := items
  tables := builder.tables
  joins := builder.joins
  filter := builder.filter
  order := builder.order
  limit := builder.limit
  offset := builder.offset

def withTables (builder : Builder .given .missing) (tables : List Table) :
    Builder .given .given where
  distinct := builder.distinct
  items := builder.items
  tables := tables
  joins := builder.joins
  filter := builder.filter
  order := builder.order
  limit := builder.limit
  offset := builder.offset

/-- DISTINCT does not have to wait for the FROM. -/
def withDistinct (builder : Builder .given source) : Builder .given source :=
  { builder with distinct := true }

end Builder

/-- A builder that has a select list and a FROM. -/
abbrev Draft :=
  Builder .given .given

/-- One addition to a draft. -/
inductive Draft.Step where
  | join (kind : JoinKind) (table : Table) (on : Condition)
  | filter (condition : Condition)
  | and (condition : Condition)
  | or (condition : Condition)
  | order (fields : List OrderField)
  | limit (count : UInt64)
  | offset (count : UInt64)
  | distinct

namespace Draft

/-- The draft `SELECT items FROM tables`, of a builder that was made distinct so
many times before it was given the FROM. -/
def startAfter (early : Nat) (items : List Expr) (tables : List Table) :
    Draft :=
  (Nat.repeat Builder.withDistinct early
    (Builder.empty.withItems items)).withTables tables

/-- The draft `SELECT items FROM tables`. -/
def start (items : List Expr) (tables : List Table) : Draft :=
  startAfter 0 items tables

def pushJoin (draft : Draft) (kind : JoinKind) (table : Table)
    (on : Condition) : Draft :=
  { draft with joins := draft.joins ++ [⟨kind, table, on⟩] }

def join (draft : Draft) (table : Table) (on : Condition) : Draft :=
  draft.pushJoin .inner table on

def leftOuterJoin (draft : Draft) (table : Table) (on : Condition) : Draft :=
  draft.pushJoin .leftOuter table on

def rightOuterJoin (draft : Draft) (table : Table) (on : Condition) : Draft :=
  draft.pushJoin .rightOuter table on

def fullOuterJoin (draft : Draft) (table : Table) (on : Condition) : Draft :=
  draft.pushJoin .fullOuter table on

/-- The old condition, if there is one, combined with a new one. -/
def combine (conjunction : Condition → Condition → Condition)
    (old : Option Condition) (new : Condition) : Condition :=
  match old with
  | none => new
  | some old => conjunction old new

/-- A second WHERE replaces the first, a second limit or offset the earlier one;
ORDER BY fields and joins add up, and `and` and `or` combine with the condition
that is there. -/
def add (draft : Draft) : Step → Draft
  | .join .inner table on => draft.join table on
  | .join .leftOuter table on => draft.leftOuterJoin table on
  | .join .rightOuter table on => draft.rightOuterJoin table on
  | .join .fullOuter table on => draft.fullOuterJoin table on
  | .filter condition => { draft with filter := some condition }
  | .and condition =>
      { draft with filter := some (combine .and draft.filter condition) }
  | .or condition =>
      { draft with filter := some (combine .or draft.filter condition) }
  | .order fields => { draft with order := draft.order ++ fields }
  | .limit count => { draft with limit := some count }
  | .offset count => { draft with offset := some count }
  | .distinct => draft.withDistinct

theorem add_join (draft : Draft) (kind : JoinKind) (table : Table)
    (on : Condition) :
    draft.add (.join kind table on) =
      { draft with joins := draft.joins ++ [⟨kind, table, on⟩] } := by
  cases kind <;> rfl

def addAll (draft : Draft) (steps : List Step) : Draft :=
  steps.foldl add draft

/-- The statement of the parts, whether it passes the checks or not. -/
def select (draft : Draft) : Select where
  distinct := draft.distinct
  items := draft.items
  tables := draft.tables
  joins := draft.joins
  filter := draft.filter
  order := draft.order
  limit := draft.limit
  offset := draft.offset

/-- The statement of a draft that has items and tables, is in shape, and imports
what it needs. -/
def build (draft : Draft) : Except Error Select := do
  require (!draft.items.isEmpty) .emptySelectList
  require (!draft.tables.isEmpty) .emptyFrom
  let select := draft.select
  (Node.select select).checkShapes
  select.checkImports
  return select

end Draft

end SqlStatement
