import SqlStatement.Style
import SqlStatement.Tree

/-!
# The layout of a statement

The pieces of every part of a tree, put together from the pieces of the parts
directly below it.  The dialect decides on the word before an alias and on the
paging, and on nothing else.

Parentheses are added where AND and OR meet, and around what NOT is put in front
of unless it stands for itself.
-/

namespace SqlStatement

/-- A table where it is imported: its name and, if it has one, its alias. -/
def Table.pieces (dialect : Dialect) (table : Table) : List Piece :=
  match table.aliasName?, dialect.aliasKeyword with
  | none, _ => [.name table.name]
  | some aliasName, none => [.name table.name, .text " ", .name aliasName]
  | some aliasName, some keyword =>
      [.name table.name, .text " ", .text keyword, .text " ", .name aliasName]

def Column.pieces (column : Column) : List Piece :=
  [.name column.table.reference, .text ".", .name column.name]

/-- The paging of a statement and its ORDER BY, in the order of the dialect,
each after a space.  A statement that is paged and has no ORDER BY takes the one
that the dialect asks for. -/
def Dialect.tail (dialect : Dialect) (order : Option (List Piece))
    (limit offset : Option UInt64) : List Piece :=
  let paging := (dialect.paging limit offset).map fun text => [.text text]
  let order := match order, paging with
    | some order, _ => some order
    | none, some _ => dialect.pagingOrder.map fun text => [.text text]
    | none, none => none
  let sections := match dialect.position with
    | .afterWhere => [paging, order]
    | .afterOrderBy => [order, paging]
  sections.flatMap fun
    | none => []
    | some pieces => .text " " :: pieces

namespace Condition

def isAnd : Condition → Bool
  | and _ _ => true
  | _ => false

def isOr : Condition → Bool
  | or _ _ => true
  | _ => false

/-- A condition that is nested, raw or negated is written as it is after NOT. -/
def needsParenthesesAfterNot : Condition → Bool
  | nested _ | raw _ | not _ => false
  | _ => true

end Condition

/-- A statement in parentheses that is alone in an IN gets no second pair of
them. -/
def isLoneSubSelect : List Expr → Bool
  | [.subSelect _] => true
  | _ => false

mutual

def Expr.pieces (dialect : Dialect) : Expr → List Piece
  | .column column => column.pieces
  | .raw text => [.text text]
  | .asterisk none => [.text "*"]
  | .asterisk (some table) => [.name table.reference, .text ".*"]
  | .subSelect select => Piece.parenthesised (select.pieces dialect)
  | .literal value => [.literal value]
  | .bind none => [.text "?"]
  | .bind (some name) => [.text ":", .text name.name]
  | .function name args =>
      .text name :: Piece.parenthesised
        (Piece.commaSeparated (Expr.listPieces dialect args))

def Expr.listPieces (dialect : Dialect) : List Expr → List (List Piece)
  | [] => []
  | expr :: exprs => expr.pieces dialect :: Expr.listPieces dialect exprs

def Condition.pieces (dialect : Dialect) : Condition → List Piece
  | .comparison left op right =>
      left.pieces dialect ++
        .text " " :: .text op.sql :: .text " " :: right.pieces dialect
  | .like left right =>
      left.pieces dialect ++ .text " LIKE " :: right.pieces dialect
  | .inList left args negated =>
      left.pieces dialect ++ .text (if negated then " NOT IN " else " IN ") ::
        Piece.parenthesisedIf (!isLoneSubSelect args)
          (Piece.commaSeparated (Expr.listPieces dialect args))
  | .isNull operand negated =>
      operand.pieces dialect ++
        [.text (if negated then " IS NOT NULL" else " IS NULL")]
  | .nested inner => Piece.parenthesised (inner.pieces dialect)
  | .raw text => [.text text]
  | .and left right =>
      Piece.parenthesisedIf left.isOr (left.pieces dialect) ++
        .text " AND " :: Piece.parenthesisedIf right.isOr (right.pieces dialect)
  | .or left right =>
      Piece.parenthesisedIf left.isAnd (left.pieces dialect) ++
        .text " OR " :: Piece.parenthesisedIf right.isAnd (right.pieces dialect)
  | .not inner =>
      .text "NOT " :: Piece.parenthesisedIf inner.needsParenthesesAfterNot
        (inner.pieces dialect)

def OrderField.pieces (dialect : Dialect) : OrderField → List Piece
  | ⟨expr, direction, nulls⟩ =>
      expr.pieces dialect ++
        (match direction with
          | none => []
          | some direction => [.text " ", .text direction.sql]) ++
        match nulls with
          | none => []
          | some nulls => [.text " ", .text nulls.sql]

def OrderField.listPieces (dialect : Dialect) :
    List OrderField → List (List Piece)
  | [] => []
  | field :: fields =>
      field.pieces dialect :: OrderField.listPieces dialect fields

def Join.pieces (dialect : Dialect) : Join → List Piece
  | ⟨kind, table, on⟩ =>
      .text kind.sql :: .text " " :: table.pieces dialect ++
        .text " ON " :: on.pieces dialect

/-- The joins, each after a space. -/
def Join.listPieces (dialect : Dialect) : List Join → List Piece
  | [] => []
  | join :: joins =>
      .text " " :: join.pieces dialect ++ Join.listPieces dialect joins

/-- The WHERE, if there is one, after a space. -/
def Condition.wherePieces (dialect : Dialect) : Option Condition → List Piece
  | none => []
  | some condition => .text " WHERE " :: condition.pieces dialect

/-- The ORDER BY, if there is one. -/
def OrderField.orderByPieces (dialect : Dialect) :
    List OrderField → Option (List Piece)
  | [] => none
  | field :: fields =>
      some (.text "ORDER BY " :: Piece.commaSeparated
        (field.pieces dialect :: OrderField.listPieces dialect fields))

def Select.pieces (dialect : Dialect) : Select → List Piece
  | ⟨distinct, items, tables, joins, filter, order, limit, offset⟩ =>
      .text (if distinct then "SELECT DISTINCT " else "SELECT ") ::
        Piece.commaSeparated (Expr.listPieces dialect items) ++
        .text " FROM " ::
        Piece.commaSeparated (tables.map (Table.pieces dialect)) ++
        Join.listPieces dialect joins ++
        Condition.wherePieces dialect filter ++
        dialect.tail (OrderField.orderByPieces dialect order) limit offset

end

theorem Expr.listPieces_eq_map (dialect : Dialect) (exprs : List Expr) :
    Expr.listPieces dialect exprs = exprs.map (Expr.pieces dialect) :=
  eq_map_of_cons (Expr.listPieces dialect) rfl (fun _ _ => rfl) exprs

theorem OrderField.listPieces_eq_map (dialect : Dialect)
    (fields : List OrderField) :
    OrderField.listPieces dialect fields =
      fields.map (OrderField.pieces dialect) :=
  eq_map_of_cons (OrderField.listPieces dialect) rfl (fun _ _ => rfl) fields

theorem Join.listPieces_eq_flatMap (dialect : Dialect) (joins : List Join) :
    Join.listPieces dialect joins =
      joins.flatMap fun join => .text " " :: join.pieces dialect :=
  eq_flatMap_of_cons (Join.listPieces dialect) rfl (fun _ _ => rfl) joins

/-! ## Text -/

namespace Style

variable (style : Style)

def table (table : Table) : String :=
  style.write (table.pieces style.dialect)

def column (column : Column) : String :=
  style.write column.pieces

def expr (expr : Expr) : String :=
  style.write (expr.pieces style.dialect)

def condition (condition : Condition) : String :=
  style.write (condition.pieces style.dialect)

def select (select : Select) : String :=
  style.write (select.pieces style.dialect)

end Style

end SqlStatement
