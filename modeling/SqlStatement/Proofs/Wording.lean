import SqlStatement.Layout
import Mathlib.Tactic

/-!
# The wording of a statement

The layout of a tree is a list of pieces.  Here it is read as text: what is
written for a statement, a condition or an expression is put together from what
is written for the parts directly below it, and from nothing else.
-/

namespace SqlStatement

namespace Style

variable (style : Style)

@[simp] theorem write_parenthesised (pieces : List Piece) :
    style.write (Piece.parenthesised pieces) =
      "(" ++ style.write pieces ++ ")" := by
  simp [Piece.parenthesised, piece, String.append_assoc]

theorem write_parenthesisedIf (wrap : Bool) (pieces : List Piece) :
    style.write (Piece.parenthesisedIf wrap pieces) =
      if wrap then "(" ++ style.write pieces ++ ")"
      else style.write pieces := by
  cases wrap with
  | false => rfl
  | true => exact style.write_parenthesised pieces

theorem write_commaSeparated (parts : List (List Piece)) :
    style.write (Piece.commaSeparated parts) =
      ", ".intercalate (parts.map style.write) := by
  unfold Piece.commaSeparated
  induction parts with
  | nil => rfl
  | cons part parts ih =>
      cases parts with
      | nil => simp
      | cons next rest =>
          rw [List.intercalate_cons_cons, write_append, write_append, ih,
            List.map_cons, List.map_cons, List.map_cons,
            String.intercalate_cons_cons]
          simp [piece]

/-! ## Words from parts -/

def exprFromParts : Expr → String
  | .column column => style.column column
  | .raw text => text
  | .asterisk none => "*"
  | .asterisk (some table) => style.identifier table.reference ++ ".*"
  | .subSelect select => "(" ++ style.select select ++ ")"
  | .literal value => value.sql
  | .bind none => "?"
  | .bind (some name) => ":" ++ name.name
  | .function name args =>
      name ++ "(" ++ ", ".intercalate (args.map style.expr) ++ ")"

/-- What follows IN.  A statement brings its own parentheses. -/
def arguments : List Expr → String
  | [.subSelect select] => "(" ++ style.select select ++ ")"
  | args => "(" ++ ", ".intercalate (args.map style.expr) ++ ")"

def grouped (wrap : Bool) (condition : Condition) : String :=
  if wrap then "(" ++ style.condition condition ++ ")"
  else style.condition condition

def conditionFromParts : Condition → String
  | .comparison left comparator right =>
      style.expr left ++ " " ++ comparator.sql ++ " " ++ style.expr right
  | .like left right => style.expr left ++ " LIKE " ++ style.expr right
  | .inList left args negated =>
      style.expr left ++ (if negated then " NOT IN " else " IN ") ++
        style.arguments args
  | .isNull operand negated =>
      style.expr operand ++ if negated then " IS NOT NULL" else " IS NULL"
  | .nested inner => "(" ++ style.condition inner ++ ")"
  | .raw text => text
  | .and left right =>
      style.grouped left.isOr left ++ " AND " ++ style.grouped right.isOr right
  | .or left right =>
      style.grouped left.isAnd left ++ " OR " ++
        style.grouped right.isAnd right
  | .not inner => "NOT " ++ style.grouped inner.needsParenthesesAfterNot inner

def join (join : Join) : String :=
  join.kind.sql ++ " " ++ style.table join.table ++ " ON " ++
    style.condition join.on

def orderField (field : OrderField) : String :=
  style.expr field.expr ++
    (match field.direction with
      | none => ""
      | some direction => " " ++ direction.sql) ++
    match field.nulls with
      | none => ""
      | some nulls => " " ++ nulls.sql

def orderBy? (fields : List OrderField) : Option String :=
  if fields.isEmpty then none
  else some ("ORDER BY " ++ ", ".intercalate (fields.map style.orderField))

/-- The ORDER BY and the paging of a statement as the dialect arranges them. -/
def tail (order : Option String) (limit offset : Option UInt64) :
    List String :=
  let paging := style.dialect.paging limit offset
  let order :=
    match order, paging with
    | some order, _ => some order
    | none, some _ => style.dialect.pagingOrder
    | none, none => none
  match style.dialect.position with
  | .afterWhere => paging.toList ++ order.toList
  | .afterOrderBy => order.toList ++ paging.toList

def selectFromParts (select : Select) : String :=
  "SELECT " ++ (if select.distinct then "DISTINCT " else "") ++
    ", ".intercalate (select.items.map style.expr) ++
    " FROM " ++ ", ".intercalate (select.tables.map style.table) ++
    String.join (select.joins.map fun join => " " ++ style.join join) ++
    String.join (select.filter.toList.map fun condition =>
      " WHERE " ++ style.condition condition) ++
    String.join ((style.tail (style.orderBy? select.order) select.limit
      select.offset).map fun part => " " ++ part)

/-- What is written for a tree follows from what is written for its parts. -/
structure Compositional : Prop where
  expr : ∀ expr : Expr, style.expr expr = style.exprFromParts expr
  condition : ∀ condition : Condition,
    style.condition condition = style.conditionFromParts condition
  select : ∀ select : Select,
    style.select select = style.selectFromParts select

/-! ## The layout is worded from parts -/

theorem map_write_exprs (exprs : List Expr) :
    (Expr.listPieces style.dialect exprs).map style.write =
      exprs.map style.expr := by
  rw [Expr.listPieces_eq_map, List.map_map]
  rfl

theorem map_write_tables (tables : List Table) :
    (tables.map (Table.pieces style.dialect)).map style.write =
      tables.map style.table := by
  rw [List.map_map]
  rfl

theorem expr_eq (expr : Expr) :
    style.expr expr = style.exprFromParts expr := by
  unfold Style.expr
  cases expr with
  | column column => rfl
  | raw text => simp [Expr.pieces, exprFromParts, piece]
  | asterisk table =>
      cases table with
      | none => simp [Expr.pieces, exprFromParts, piece]
      | some table => simp [Expr.pieces, exprFromParts, piece]
  | subSelect select =>
      rw [Expr.pieces, write_parenthesised]
      rfl
  | literal value => simp [Expr.pieces, exprFromParts, piece]
  | bind name =>
      cases name with
      | none => simp [Expr.pieces, exprFromParts, piece]
      | some name => simp [Expr.pieces, exprFromParts, piece]
  | function name args =>
      rw [Expr.pieces, write_cons, write_parenthesised, write_commaSeparated,
        map_write_exprs]
      simp [exprFromParts, piece, String.append_assoc]

theorem arguments_eq (args : List Expr) :
    style.arguments args =
      if isLoneSubSelect args then ", ".intercalate (args.map style.expr)
      else "(" ++ ", ".intercalate (args.map style.expr) ++ ")" := by
  unfold isLoneSubSelect
  split
  · simp [arguments, expr_eq, exprFromParts]
  · rename_i hmany
    rw [arguments]
    · rfl
    · exact hmany

theorem write_arguments (args : List Expr) :
    style.write (Piece.parenthesisedIf (!isLoneSubSelect args)
        (Piece.commaSeparated (Expr.listPieces style.dialect args))) =
      style.arguments args := by
  rw [write_parenthesisedIf, write_commaSeparated, map_write_exprs,
    arguments_eq]
  cases isLoneSubSelect args <;> rfl

theorem write_grouped (wrap : Bool) (condition : Condition) :
    style.write (Piece.parenthesisedIf wrap
        (condition.pieces style.dialect)) =
      style.grouped wrap condition :=
  style.write_parenthesisedIf wrap _

theorem condition_eq (condition : Condition) :
    style.condition condition = style.conditionFromParts condition := by
  unfold Style.condition
  cases condition with
  | comparison left comparator right =>
      simp [Condition.pieces, conditionFromParts, piece, Style.expr,
        String.append_assoc]
  | like left right =>
      simp [Condition.pieces, conditionFromParts, piece, Style.expr,
        String.append_assoc]
  | inList left args negated =>
      rw [Condition.pieces, write_append, write_cons, write_arguments,
        conditionFromParts, String.append_assoc]
      rfl
  | isNull operand negated =>
      simp [Condition.pieces, conditionFromParts, piece, Style.expr]
  | nested inner =>
      rw [Condition.pieces, write_parenthesised]
      rfl
  | raw text => simp [Condition.pieces, conditionFromParts, piece]
  | and left right | or left right =>
      rw [Condition.pieces, write_append, write_cons, write_grouped,
        write_grouped, conditionFromParts, String.append_assoc]
      rfl
  | not inner =>
      rw [Condition.pieces, write_cons, write_grouped]
      rfl

theorem orderField_eq (field : OrderField) :
    style.write (field.pieces style.dialect) = style.orderField field := by
  obtain ⟨expr, direction, nulls⟩ := field
  cases direction <;> cases nulls <;>
    simp [OrderField.pieces, orderField, piece, Style.expr,
      String.append_assoc]

theorem join_eq (join : Join) :
    style.write (join.pieces style.dialect) = style.join join := by
  obtain ⟨kind, table, on⟩ := join
  simp [Join.pieces, Style.join, piece, Style.table, Style.condition,
    String.append_assoc]

theorem write_joins (joins : List Join) :
    style.write (Join.listPieces style.dialect joins) =
      String.join (joins.map fun join => " " ++ style.join join) := by
  induction joins with
  | nil => rfl
  | cons join joins ih =>
      rw [Join.listPieces, List.cons_append, write_cons, write_append, ih,
        join_eq, List.map_cons, String.join_cons, String.append_assoc]
      rfl

theorem write_where (filter : Option Condition) :
    style.write (Condition.wherePieces style.dialect filter) =
      String.join (filter.toList.map fun condition =>
        " WHERE " ++ style.condition condition) := by
  cases filter with
  | none => rfl
  | some condition =>
      simp [Condition.wherePieces, piece, Style.condition]

theorem write_orderBy (fields : List OrderField) :
    (OrderField.orderByPieces style.dialect fields).map style.write =
      style.orderBy? fields := by
  cases fields with
  | nil => rfl
  | cons field fields =>
      have hlist : field.pieces style.dialect ::
          OrderField.listPieces style.dialect fields =
            (field :: fields).map (OrderField.pieces style.dialect) := by
        rw [OrderField.listPieces_eq_map, List.map_cons]
      have htexts : style.write ∘ OrderField.pieces style.dialect =
          style.orderField := funext style.orderField_eq
      rw [OrderField.orderByPieces, hlist, Option.map_some, write_cons,
        write_commaSeparated, List.map_map, htexts]
      rfl

theorem write_tail (order : Option (List Piece))
    (limit offset : Option UInt64) :
    style.write (style.dialect.tail order limit offset) =
      String.join ((style.tail (order.map style.write) limit
        offset).map fun part => " " ++ part) := by
  unfold Dialect.tail Style.tail
  cases style.dialect.position <;> cases order <;>
    cases style.dialect.paging limit offset <;>
    cases style.dialect.pagingOrder <;> simp [piece, String.append_assoc]

theorem select_eq (select : Select) :
    style.select select = style.selectFromParts select := by
  obtain ⟨distinct, items, tables, joins, filter, order, limit, offset⟩ :=
    select
  have hstart :
      style.piece (.text (if distinct then "SELECT DISTINCT "
        else "SELECT ")) =
      "SELECT " ++ if distinct then "DISTINCT " else "" := by
    cases distinct <;> rfl
  unfold Style.select selectFromParts
  simp only [Select.pieces, write_append, write_cons, List.cons_append,
    write_commaSeparated, map_write_exprs, map_write_tables, write_joins,
    write_where, write_tail, write_orderBy, hstart, String.append_assoc]
  rfl

theorem compositional : style.Compositional :=
  ⟨style.expr_eq, style.condition_eq, style.select_eq⟩

end Style

end SqlStatement
