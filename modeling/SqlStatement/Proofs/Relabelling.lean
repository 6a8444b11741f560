import SqlStatement.Proofs.Spelling
import Mathlib.Tactic

/-!
# Trees with other labels

A relabelling gives other names and other literals to a tree and leaves
everything else in it as it is.  The layout of the relabelled tree is the
layout of the tree with the labels changed in it: nothing in a layout depends
on what the labels are.
-/

namespace SqlStatement

/-- What becomes of the names of tables, aliases and columns, of bind markers,
which keep their names, and of literals. -/
structure Relabelling where
  name : Identifier → Identifier
  marker : Identifier → Identifier
  literal : Literal → Literal
  name_marker : ∀ id, (marker id).name = id.name

namespace Relabelling

variable (r : Relabelling)

def table (table : Table) : Table :=
  ⟨r.name table.name, table.aliasName?.map r.name⟩

def column (column : Column) : Column :=
  ⟨r.table column.table, r.name column.name⟩

def piece : Piece → Piece
  | .text t => .text t
  | .name n => .name (r.name n)
  | .literal value => .literal (r.literal value)

@[simp] theorem piece_text (text : String) :
    r.piece (.text text) = .text text :=
  rfl

@[simp] theorem piece_name (name : Identifier) :
    r.piece (.name name) = .name (r.name name) :=
  rfl

@[simp] theorem piece_literal (value : Literal) :
    r.piece (.literal value) = .literal (r.literal value) :=
  rfl

theorem reference_table (table : Table) :
    (r.table table).reference = r.name table.reference := by
  obtain ⟨name, _ | aliasName⟩ := table <;> rfl

end Relabelling

mutual

def Expr.relabel (r : Relabelling) : Expr → Expr
  | .column column => .column (r.column column)
  | .raw text => .raw text
  | .asterisk table => .asterisk (table.map r.table)
  | .subSelect select => .subSelect (select.relabel r)
  | .literal value => .literal (r.literal value)
  | .bind name => .bind (name.map r.marker)
  | .function name args => .function name (Expr.listRelabel r args)

def Expr.listRelabel (r : Relabelling) : List Expr → List Expr
  | [] => []
  | expr :: exprs => expr.relabel r :: Expr.listRelabel r exprs

def Condition.relabel (r : Relabelling) : Condition → Condition
  | .comparison left comparator right =>
      .comparison (left.relabel r) comparator (right.relabel r)
  | .like left right => .like (left.relabel r) (right.relabel r)
  | .inList left args negated =>
      .inList (left.relabel r) (Expr.listRelabel r args) negated
  | .isNull operand negated => .isNull (operand.relabel r) negated
  | .nested inner => .nested (inner.relabel r)
  | .raw text => .raw text
  | .and left right => .and (left.relabel r) (right.relabel r)
  | .or left right => .or (left.relabel r) (right.relabel r)
  | .not inner => .not (inner.relabel r)

def Condition.optionRelabel (r : Relabelling) :
    Option Condition → Option Condition
  | none => none
  | some condition => some (condition.relabel r)

def OrderField.relabel (r : Relabelling) : OrderField → OrderField
  | ⟨expr, direction, nulls⟩ => ⟨expr.relabel r, direction, nulls⟩

def OrderField.listRelabel (r : Relabelling) :
    List OrderField → List OrderField
  | [] => []
  | field :: fields => field.relabel r :: OrderField.listRelabel r fields

def Join.relabel (r : Relabelling) : Join → Join
  | ⟨kind, table, on⟩ => ⟨kind, r.table table, on.relabel r⟩

def Join.listRelabel (r : Relabelling) : List Join → List Join
  | [] => []
  | join :: joins => join.relabel r :: Join.listRelabel r joins

def Select.relabel (r : Relabelling) : Select → Select
  | ⟨distinct, items, tables, joins, filter, order, limit, offset⟩ =>
      ⟨distinct, Expr.listRelabel r items, tables.map r.table,
        Join.listRelabel r joins, Condition.optionRelabel r filter,
        OrderField.listRelabel r order, limit, offset⟩

end

section Relabel

variable (r : Relabelling)

theorem Expr.listRelabel_eq_map (exprs : List Expr) :
    Expr.listRelabel r exprs = exprs.map (Expr.relabel r) :=
  eq_map_of_cons (Expr.listRelabel r) rfl (fun _ _ => rfl) exprs

theorem OrderField.listRelabel_eq_map (fields : List OrderField) :
    OrderField.listRelabel r fields = fields.map (OrderField.relabel r) :=
  eq_map_of_cons (OrderField.listRelabel r) rfl (fun _ _ => rfl) fields

theorem Join.listRelabel_eq_map (joins : List Join) :
    Join.listRelabel r joins = joins.map (Join.relabel r) :=
  eq_map_of_cons (Join.listRelabel r) rfl (fun _ _ => rfl) joins

theorem Condition.optionRelabel_eq_map (filter : Option Condition) :
    Condition.optionRelabel r filter = filter.map (Condition.relabel r) :=
  eq_map_of_some (Condition.optionRelabel r) rfl (fun _ => rfl) filter

@[simp] theorem OrderField.expr_relabel (field : OrderField) :
    (field.relabel r).expr = field.expr.relabel r := by
  cases field
  rfl

@[simp] theorem Join.on_relabel (join : Join) :
    (join.relabel r).on = join.on.relabel r := by
  cases join
  rfl

def Node.relabel : Node → Node
  | select s => select (s.relabel r)
  | items es => items (es.map (Expr.relabel r))
  | tables ts => tables (ts.map r.table)
  | join j => join (j.relabel r)
  | filter c => filter (c.relabel r)
  | order fs => order (fs.map (OrderField.relabel r))
  | orderField f => orderField (f.relabel r)
  | table t => table (r.table t)
  | expr e => expr (e.relabel r)
  | condition c => condition (c.relabel r)

end Relabel

/-! ## The scope of a relabelled tree -/

section Scope

variable (r : Relabelling)

theorem Expr.scope_relabel (expr : Expr) :
    (expr.relabel r).scope = expr.scope.map (relabel r) := by
  induction expr using Expr.inductionOn with
  | function name args ih =>
      have hargs : (args.map (relabel r)).flatMap Expr.scope =
          (args.flatMap Expr.scope).map (relabel r) := by
        rw [List.flatMap_map, List.map_flatMap]
        exact List.flatMap_congr ih
      simp only [relabel, listRelabel_eq_map, scope, listScope_eq_flatMap,
        List.map_cons, hargs]
  | _ => simp [relabel, scope]

theorem Expr.flatMap_scope_relabel (exprs : List Expr) :
    (exprs.map (relabel r)).flatMap Expr.scope =
      (exprs.flatMap Expr.scope).map (relabel r) := by
  rw [List.flatMap_map, List.map_flatMap]
  exact List.flatMap_congr fun expr _ => expr.scope_relabel r

theorem Condition.scope_relabel (condition : Condition) :
    (condition.relabel r).scope = condition.scope.map (Expr.relabel r) := by
  induction condition using Condition.inductionOn with
  | comparison left comparator right | like left right =>
      simp [relabel, scope, Expr.scope_relabel]
  | inList left args negated =>
      simp only [relabel, scope, List.map_append, Expr.scope_relabel,
        Expr.listRelabel_eq_map, Expr.flatMap_scope_relabel]
  | isNull operand negated => exact operand.scope_relabel r
  | nested inner ih | not inner ih => exact ih
  | raw text => rfl
  | and left right ihleft ihright | or left right ihleft ihright =>
      simp [relabel, scope, ihleft, ihright]

theorem Select.scope_relabel (select : Select) :
    (select.relabel r).scope = select.scope.map (Expr.relabel r) := by
  obtain ⟨distinct, items, tables, joins, filter, order, limit, offset⟩ :=
    select
  cases filter <;>
    simp [relabel, scope, Expr.listRelabel_eq_map, Join.listRelabel_eq_map,
      OrderField.listRelabel_eq_map, Condition.optionRelabel_eq_map,
      List.flatMap_map, List.map_flatMap, Function.comp_def,
      Expr.scope_relabel, Condition.scope_relabel]

theorem Expr.filterMap_subSelect?_relabel (exprs : List Expr) :
    (exprs.map (relabel r)).filterMap subSelect? =
      (exprs.filterMap subSelect?).map (Select.relabel r) := by
  rw [List.filterMap_map, List.map_filterMap]
  congr 1
  funext expr
  cases expr <;> rfl

theorem Expr.subSelects_relabel (expr : Expr) :
    (expr.relabel r).subSelects = expr.subSelects.map (Select.relabel r) := by
  rw [subSelects, scope_relabel, filterMap_subSelect?_relabel, subSelects]

theorem Condition.subSelects_relabel (condition : Condition) :
    (condition.relabel r).subSelects =
      condition.subSelects.map (Select.relabel r) := by
  rw [subSelects, scope_relabel, Expr.filterMap_subSelect?_relabel, subSelects]

theorem Select.subSelects_relabel (select : Select) :
    (select.relabel r).subSelects = select.subSelects.map (relabel r) := by
  rw [subSelects, scope_relabel, Expr.filterMap_subSelect?_relabel, subSelects]

end Scope

/-! ## The layout of a relabelled tree -/

namespace Piece

variable (change : Piece → Piece)

theorem map_commaSeparated (hcomma : change (text ", ") = text ", ")
    (parts : List (List Piece)) :
    (commaSeparated parts).map change =
      commaSeparated (parts.map (List.map change)) := by
  unfold commaSeparated
  induction parts with
  | nil => rfl
  | cons part parts ih =>
      cases parts with
      | nil => simp
      | cons next rest =>
          simp only [List.intercalate_cons_cons, List.map_append,
            List.map_cons] at ih ⊢
          rw [ih, hcomma]
          rfl

end Piece

section Layout

variable {r : Relabelling} {dialect : Dialect}

@[simp] theorem Relabelling.map_piece_parenthesised (pieces : List Piece) :
    (Piece.parenthesised pieces).map r.piece =
      Piece.parenthesised (pieces.map r.piece) := by
  simp [Piece.parenthesised]

@[simp] theorem Relabelling.map_piece_parenthesisedIf (wrap : Bool)
    (pieces : List Piece) :
    (Piece.parenthesisedIf wrap pieces).map r.piece =
      Piece.parenthesisedIf wrap (pieces.map r.piece) := by
  cases wrap with
  | false => rfl
  | true => exact map_piece_parenthesised pieces

theorem Relabelling.map_piece_commaSeparated {parts : List α}
    {write : α → List Piece} {relabel : α → α}
    (h : ∀ part ∈ parts,
      write (relabel part) = (write part).map r.piece) :
    (Piece.commaSeparated (parts.map write)).map r.piece =
      Piece.commaSeparated (parts.map (write ∘ relabel)) := by
  rw [Piece.map_commaSeparated r.piece rfl, List.map_map]
  exact congrArg _ (List.map_congr_left fun part hpart => (h part hpart).symm)

theorem Table.pieces_relabel (table : Table) :
    (r.table table).pieces dialect = (table.pieces dialect).map r.piece := by
  obtain ⟨name, aliasName?⟩ := table
  unfold Table.pieces Relabelling.table
  cases aliasName? <;> cases dialect.aliasKeyword <;> rfl

theorem Expr.isLoneSubSelect_relabel (args : List Expr) :
    isLoneSubSelect (args.map (relabel r)) = isLoneSubSelect args := by
  rcases args with _ | ⟨arg, _ | _⟩
  · rfl
  · cases arg <;> rfl
  · cases arg <;> rfl

theorem Expr.pieces_relabel {expr : Expr}
    (hchild : ∀ child ∈ (Node.expr expr).children,
      (child.relabel r).pieces dialect = (child.pieces dialect).map r.piece) :
    (expr.relabel r).pieces dialect = (expr.pieces dialect).map r.piece := by
  cases expr with
  | column column =>
      simp [relabel, pieces, Column.pieces, Relabelling.column,
        r.reference_table]
  | raw text => simp [relabel, pieces]
  | asterisk table =>
      cases table <;> simp [relabel, pieces, r.reference_table]
  | subSelect select =>
      have hselect := hchild (.select select) List.mem_cons_self
      simp only [Node.relabel, Node.pieces] at hselect
      simp [relabel, pieces, hselect]
  | literal value => simp [relabel, pieces]
  | bind name =>
      cases name <;> simp [relabel, pieces, r.name_marker]
  | function name args =>
      have hargs : ∀ arg ∈ args, (arg.relabel r).pieces dialect =
          (arg.pieces dialect).map r.piece :=
        fun arg harg => hchild (.expr arg) (List.mem_map_of_mem harg)
      simp [relabel, pieces, listPieces_eq_map, listRelabel_eq_map,
        Relabelling.map_piece_commaSeparated hargs]

namespace Condition

theorem isAnd_relabel (condition : Condition) :
    (condition.relabel r).isAnd = condition.isAnd := by
  cases condition <;> rfl

theorem isOr_relabel (condition : Condition) :
    (condition.relabel r).isOr = condition.isOr := by
  cases condition <;> rfl

theorem needsParenthesesAfterNot_relabel (condition : Condition) :
    (condition.relabel r).needsParenthesesAfterNot =
      condition.needsParenthesesAfterNot := by
  cases condition <;> rfl

theorem pieces_relabel {condition : Condition}
    (hchild : ∀ child ∈ (Node.condition condition).children,
      (child.relabel r).pieces dialect = (child.pieces dialect).map r.piece) :
    (condition.relabel r).pieces dialect =
      (condition.pieces dialect).map r.piece := by
  cases condition with
  | comparison left comparator right | like left right =>
      have hleft := hchild _ List.mem_cons_self
      have hright := hchild _ (right_mem_children rfl)
      simp only [Node.relabel, Node.pieces] at hleft hright
      simp [relabel, pieces, hleft, hright]
  | inList left args negated =>
      have hleft := hchild _ List.mem_cons_self
      have hargs : ∀ arg ∈ args, (arg.relabel r).pieces dialect =
          (arg.pieces dialect).map r.piece :=
        fun arg harg => hchild (.expr arg)
          (List.mem_cons_of_mem _ (List.mem_map_of_mem harg))
      simp only [Node.relabel, Node.pieces] at hleft
      simp [relabel, pieces, hleft, Expr.listPieces_eq_map,
        Expr.listRelabel_eq_map, Expr.isLoneSubSelect_relabel,
        Relabelling.map_piece_commaSeparated hargs]
  | isNull inner negated | nested inner =>
      have hinner := hchild _ List.mem_cons_self
      simp only [Node.relabel, Node.pieces] at hinner
      simp [relabel, pieces, hinner]
  | raw text => simp [relabel, pieces]
  | and left right | or left right =>
      have hleft := hchild _ List.mem_cons_self
      have hright := hchild _ (right_mem_children rfl)
      simp only [Node.relabel, Node.pieces] at hleft hright
      simp [relabel, pieces, hleft, hright, isAnd_relabel, isOr_relabel]
  | not inner =>
      have hinner := hchild _ List.mem_cons_self
      simp only [Node.relabel, Node.pieces] at hinner
      simp [relabel, pieces, hinner, needsParenthesesAfterNot_relabel]

end Condition

theorem OrderField.pieces_relabel {field : OrderField}
    (hexpr : (field.expr.relabel r).pieces dialect =
      (field.expr.pieces dialect).map r.piece) :
    (field.relabel r).pieces dialect =
      (field.pieces dialect).map r.piece := by
  obtain ⟨expr, direction, nulls⟩ := field
  unfold relabel pieces
  cases direction <;> cases nulls <;> simp [hexpr]

theorem OrderField.orderByPieces_relabel {fields : List OrderField}
    (hfields : fields ≠ [] →
      ((Node.order fields).relabel r).pieces dialect =
        ((Node.order fields).pieces dialect).map r.piece) :
    orderByPieces dialect (fields.map (relabel r)) =
      (orderByPieces dialect fields).map (List.map r.piece) := by
  cases fields with
  | nil => rfl
  | cons field fields =>
      have hwritten := hfields (List.cons_ne_nil field fields)
      simp only [Node.relabel, Node.pieces, List.map_cons, List.map_map]
        at hwritten
      simp [orderByPieces, listPieces_eq_map, hwritten]

theorem Join.pieces_relabel {join : Join}
    (hon : (join.on.relabel r).pieces dialect =
      (join.on.pieces dialect).map r.piece) :
    (join.relabel r).pieces dialect = (join.pieces dialect).map r.piece := by
  obtain ⟨kind, table, on⟩ := join
  simp [relabel, pieces, table.pieces_relabel, hon]

theorem Join.listPieces_relabel {joins : List Join}
    (hjoins : ∀ join ∈ joins, (join.relabel r).pieces dialect =
      (join.pieces dialect).map r.piece) :
    listPieces dialect (joins.map (relabel r)) =
      (listPieces dialect joins).map r.piece := by
  rw [listPieces_eq_flatMap, listPieces_eq_flatMap, List.flatMap_map,
    List.map_flatMap]
  exact List.flatMap_congr fun join hmem => by simp [hjoins join hmem]

theorem Dialect.tail_relabel (order : Option (List Piece))
    (limit offset : Option UInt64) :
    dialect.tail (order.map (List.map r.piece)) limit offset =
      (dialect.tail order limit offset).map r.piece := by
  unfold tail
  cases dialect.paging limit offset <;> cases order <;>
    cases dialect.pagingOrder <;> cases dialect.position <;> simp

theorem Select.pieces_relabel {select : Select}
    (hchild : ∀ child ∈ (Node.select select).children,
      (child.relabel r).pieces dialect = (child.pieces dialect).map r.piece) :
    (select.relabel r).pieces dialect =
      (select.pieces dialect).map r.piece := by
  have hitems := hchild (.items select.items) List.mem_cons_self
  have htables := hchild (.tables select.tables)
    (List.mem_cons_of_mem _ List.mem_cons_self)
  have hjoins := Join.listPieces_relabel fun join hjoin =>
    hchild (.join join) (Select.join_mem_children hjoin)
  have hfilter : Condition.wherePieces dialect
        (select.filter.map (Condition.relabel r)) =
      (Condition.wherePieces dialect select.filter).map r.piece := by
    cases hcondition : select.filter with
    | none => rfl
    | some condition =>
        have hwritten := hchild (.filter condition)
          (Select.filter_mem_children hcondition)
        simp only [Node.relabel, Node.pieces] at hwritten
        simp [Condition.wherePieces, hwritten]
  have horder : OrderField.orderByPieces dialect
        (select.order.map (OrderField.relabel r)) =
      (OrderField.orderByPieces dialect select.order).map
        (List.map r.piece) :=
    OrderField.orderByPieces_relabel fun hne =>
      hchild (.order select.order) (by simp [Node.children, hne])
  simp only [Node.relabel, Node.pieces, List.map_map] at hitems htables
  obtain ⟨distinct, items, tables, joins, filter, order, limit, offset⟩ :=
    select
  rw [Select.pieces, Select.relabel, Select.pieces]
  simp [Expr.listRelabel_eq_map, OrderField.listRelabel_eq_map,
    Join.listRelabel_eq_map, Condition.optionRelabel_eq_map,
    Expr.listPieces_eq_map, hitems, htables, hjoins, hfilter, horder,
    Dialect.tail_relabel]

theorem Node.pieces_relabel (r : Relabelling) (dialect : Dialect)
    (node : Node) :
    (node.relabel r).pieces dialect = (node.pieces dialect).map r.piece := by
  induction node using Node.inductionOn with
  | step node ih =>
      cases node with
      | select select => exact select.pieces_relabel ih
      | items items =>
          simp only [relabel, pieces, List.map_map]
          exact (Relabelling.map_piece_commaSeparated fun item hitem =>
            ih (.expr item) (List.mem_map_of_mem hitem)).symm
      | tables tables =>
          simp only [relabel, pieces, List.map_map]
          exact (Relabelling.map_piece_commaSeparated fun table _ =>
            table.pieces_relabel).symm
      | join join =>
          exact join.pieces_relabel (ih (.condition join.on)
            (List.mem_cons_of_mem _ List.mem_cons_self))
      | filter condition => exact ih (.condition condition) List.mem_cons_self
      | order fields =>
          simp only [relabel, pieces, List.map_map]
          exact (Relabelling.map_piece_commaSeparated fun field hfield =>
            ih (.orderField field) (List.mem_map_of_mem hfield)).symm
      | orderField field =>
          exact field.pieces_relabel (ih (.expr field.expr) List.mem_cons_self)
      | table table => exact table.pieces_relabel
      | expr expr => exact expr.pieces_relabel ih
      | condition condition => exact condition.pieces_relabel ih

end Layout

end SqlStatement
