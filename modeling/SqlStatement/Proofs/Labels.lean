import SqlStatement.Proofs.Spelling
import Mathlib.Tactic

/-!
# Labels

The labels of a tree are the names of its tables, aliases and columns and its
literals.  Names of functions and of bind markers go into the text as they
stand and are none.  Whatever the dialect is, the layout of a node has the
labels of the tree below it in the order of the tree: each of them stands in it
once, and none is made up.
-/

namespace SqlStatement

/-! ## The labels of a tree -/

namespace Node

/-- What a node names itself, and not in its children.  A column and the
asterisk of a table name the table by its reference. -/
def ownLabels : Node → List Piece
  | table t => .name t.name :: t.aliasName?.toList.map .name
  | expr (.column c) => [.name c.table.reference, .name c.name]
  | expr (.asterisk (some t)) => [.name t.reference]
  | expr (.literal value) => [.literal value]
  | _ => []

def labels (node : Node) : List Piece :=
  node.nodes.flatMap ownLabels

theorem labels_eq (node : Node) :
    node.labels = node.ownLabels ++ node.children.flatMap labels := by
  unfold labels
  rw [nodes_eq, List.flatMap_cons, List.flatMap_assoc]

end Node

namespace Piece

def labels : Piece → List Piece
  | text _ => []
  | piece => [piece]

@[simp] theorem labels_text (text : String) :
    (Piece.text text).labels = [] :=
  rfl

theorem labels_commaSeparated (parts : List (List Piece)) :
    (commaSeparated parts).flatMap labels =
      parts.flatMap fun part => part.flatMap labels := by
  unfold commaSeparated
  induction parts with
  | nil => rfl
  | cons part parts ih =>
      cases parts with
      | nil => simp
      | cons next rest =>
          rw [List.intercalate_cons_cons, List.flatMap_append,
            List.flatMap_append, ih, List.flatMap_cons]
          simp [labels]

@[simp] theorem labels_parenthesised (pieces : List Piece) :
    (parenthesised pieces).flatMap labels = pieces.flatMap labels := by
  simp [parenthesised, labels]

@[simp] theorem labels_parenthesisedIf (wrap : Bool) (pieces : List Piece) :
    (parenthesisedIf wrap pieces).flatMap labels =
      pieces.flatMap labels := by
  cases wrap with
  | false => rfl
  | true => exact labels_parenthesised pieces

end Piece

/-! ## They are written in the order of the tree -/

section Labels

variable {dialect : Dialect}

theorem labels_commaSeparated_map {parts : List α} {write : α → List Piece}
    {node : α → Node}
    (h : ∀ part ∈ parts,
      (write part).flatMap Piece.labels = (node part).labels) :
    (Piece.commaSeparated (parts.map write)).flatMap Piece.labels =
      (parts.map node).flatMap Node.labels := by
  rw [Piece.labels_commaSeparated, List.flatMap_map, List.flatMap_map]
  exact List.flatMap_congr h

theorem Table.labels_pieces (table : Table) :
    (table.pieces dialect).flatMap Piece.labels =
      (Node.table table).labels := by
  rw [Node.labels_eq]
  obtain ⟨name, aliasName?⟩ := table
  unfold Table.pieces
  cases aliasName? <;> cases dialect.aliasKeyword <;>
    simp [Node.ownLabels, Node.children, Piece.labels]

theorem Expr.labels_pieces {expr : Expr}
    (hchild : ∀ child ∈ (Node.expr expr).children,
      (child.pieces dialect).flatMap Piece.labels = child.labels) :
    (expr.pieces dialect).flatMap Piece.labels =
      (Node.expr expr).labels := by
  rw [Node.labels_eq]
  cases expr with
  | column column =>
      rw [Expr.pieces]
      rfl
  | raw text =>
      rw [Expr.pieces]
      rfl
  | asterisk table =>
      cases table <;>
      · rw [Expr.pieces]
        rfl
  | subSelect select =>
      have hselect := hchild (.select select) List.mem_cons_self
      rw [Node.pieces] at hselect
      rw [Expr.pieces, Piece.labels_parenthesised, hselect]
      simp [Node.ownLabels, Node.children, Node.childrenOfExpr]
  | literal value =>
      rw [Expr.pieces]
      cases value <;> rfl
  | bind name =>
      cases name <;>
      · rw [Expr.pieces]
        rfl
  | function name args =>
      have hargs : (Piece.commaSeparated
            (args.map (Expr.pieces dialect))).flatMap Piece.labels =
          (args.map Node.expr).flatMap Node.labels :=
        labels_commaSeparated_map fun arg harg =>
          hchild (.expr arg) (List.mem_map_of_mem harg)
      rw [Expr.pieces, List.flatMap_cons, Piece.labels_parenthesised,
        Expr.listPieces_eq_map, hargs]
      rfl

theorem Condition.labels_pieces {condition : Condition}
    (hchild : ∀ child ∈ (Node.condition condition).children,
      (child.pieces dialect).flatMap Piece.labels = child.labels) :
    (condition.pieces dialect).flatMap Piece.labels =
      (Node.condition condition).labels := by
  rw [Node.labels_eq]
  cases condition with
  | comparison left comparator right | like left right
  | and left right | or left right =>
      have hleft := hchild _ List.mem_cons_self
      have hright := hchild _ (right_mem_children rfl)
      rw [Node.pieces] at hleft hright
      simp [pieces, Node.ownLabels, Node.children, Node.childrenOfCondition,
        hleft, hright]
  | inList left args negated =>
      have hleft := hchild (.expr left) List.mem_cons_self
      have hargs : (Piece.commaSeparated
            (args.map (Expr.pieces dialect))).flatMap Piece.labels =
          (args.map Node.expr).flatMap Node.labels :=
        labels_commaSeparated_map fun arg harg =>
          hchild (.expr arg)
            (List.mem_cons_of_mem _ (List.mem_map_of_mem harg))
      rw [Node.pieces] at hleft
      rw [pieces, Expr.listPieces_eq_map, List.flatMap_append,
        List.flatMap_cons, Piece.labels_parenthesisedIf, hleft, hargs]
      rfl
  | isNull operand negated =>
      have hoperand := hchild _ List.mem_cons_self
      rw [Node.pieces] at hoperand
      simp [pieces, Node.ownLabels, Node.children, Node.childrenOfCondition,
        hoperand]
  | nested inner | not inner =>
      have hinner := hchild _ List.mem_cons_self
      rw [Node.pieces] at hinner
      simp [pieces, Node.ownLabels, Node.children, Node.childrenOfCondition,
        hinner]
  | raw text =>
      simp [pieces, Node.ownLabels, Node.children, Node.childrenOfCondition]

theorem OrderField.labels_pieces {field : OrderField}
    (hexpr : (field.expr.pieces dialect).flatMap Piece.labels =
      (Node.expr field.expr).labels) :
    (field.pieces dialect).flatMap Piece.labels =
      (Node.orderField field).labels := by
  rw [Node.labels_eq]
  obtain ⟨expr, direction, nulls⟩ := field
  unfold pieces
  cases direction <;> cases nulls <;>
    simpa [Node.ownLabels, Node.children] using hexpr

theorem Join.labels_pieces {join : Join}
    (hon : (join.on.pieces dialect).flatMap Piece.labels =
      (Node.condition join.on).labels) :
    (join.pieces dialect).flatMap Piece.labels =
      (Node.join join).labels := by
  rw [Node.labels_eq]
  obtain ⟨kind, table, on⟩ := join
  unfold pieces
  simpa [Node.ownLabels, Node.children, table.labels_pieces] using hon

theorem Join.labels_listPieces {joins : List Join}
    (hjoins : ∀ join ∈ joins,
      (join.pieces dialect).flatMap Piece.labels =
        (Node.join join).labels) :
    (Join.listPieces dialect joins).flatMap Piece.labels =
      (joins.map Node.join).flatMap Node.labels := by
  rw [listPieces_eq_flatMap, List.flatMap_assoc, List.flatMap_map]
  exact List.flatMap_congr fun join hmem => by simp [hjoins join hmem]

theorem Dialect.labels_tail (order : Option (List Piece))
    (limit offset : Option UInt64) :
    (dialect.tail order limit offset).flatMap Piece.labels =
      order.toList.flatMap fun pieces => pieces.flatMap Piece.labels := by
  unfold tail
  cases order <;> cases dialect.paging limit offset <;>
    cases dialect.pagingOrder <;> cases dialect.position <;> simp

theorem OrderField.labels_orderByPieces {fields : List OrderField}
    (hfields : fields ≠ [] → (Piece.commaSeparated
        (fields.map (OrderField.pieces dialect))).flatMap Piece.labels =
      (Node.order fields).labels) :
    (orderByPieces dialect fields).toList.flatMap
        (fun pieces => pieces.flatMap Piece.labels) =
      (if fields.isEmpty then [] else [Node.order fields]).flatMap
        Node.labels := by
  cases fields with
  | nil => rfl
  | cons field fields =>
      have hwritten := hfields (List.cons_ne_nil field fields)
      rw [List.map_cons, ← OrderField.listPieces_eq_map] at hwritten
      simpa [orderByPieces] using hwritten

theorem Select.labels_pieces {select : Select}
    (hchild : ∀ child ∈ (Node.select select).children,
      (child.pieces dialect).flatMap Piece.labels = child.labels) :
    (select.pieces dialect).flatMap Piece.labels =
      (Node.select select).labels := by
  have hitems := hchild (.items select.items) List.mem_cons_self
  have htables := hchild (.tables select.tables)
    (List.mem_cons_of_mem _ List.mem_cons_self)
  have hjoins := Join.labels_listPieces fun join hjoin =>
    hchild (.join join) (Select.join_mem_children hjoin)
  have hfilter : (Condition.wherePieces dialect select.filter).flatMap
        Piece.labels =
      (select.filter.map Node.filter).toList.flatMap Node.labels := by
    cases hcondition : select.filter with
    | none => rfl
    | some condition =>
        have hwritten := hchild (.filter condition)
          (Select.filter_mem_children hcondition)
        rw [Node.pieces] at hwritten
        simpa [Condition.wherePieces] using hwritten
  have horder :
      (OrderField.orderByPieces dialect select.order).toList.flatMap
        (fun pieces => pieces.flatMap Piece.labels) =
      (if select.order.isEmpty then [] else [Node.order select.order]).flatMap
        Node.labels := by
    apply OrderField.labels_orderByPieces
    intro hne
    exact hchild (.order select.order) (by simp [Node.children, hne])
  simp only [Node.pieces, ← Expr.listPieces_eq_map] at hitems htables
  rw [Node.labels_eq]
  obtain ⟨distinct, items, tables, joins, filter, order, limit, offset⟩ :=
    select
  rw [Select.pieces]
  simp only [List.flatMap_append, List.flatMap_cons, Piece.labels_text,
    List.nil_append, Dialect.labels_tail, hitems, htables, hjoins,
    hfilter, horder]
  simp only [Node.ownLabels, Node.children, List.nil_append,
    List.flatMap_append, List.flatMap_cons, List.append_assoc, List.cons_append]

theorem Node.labels_pieces (dialect : Dialect) (node : Node) :
    (node.pieces dialect).flatMap Piece.labels = node.labels := by
  induction node using Node.inductionOn with
  | step node ih =>
      cases node with
      | select select => exact select.labels_pieces ih
      | items items =>
          rw [labels_eq]
          exact labels_commaSeparated_map fun item hitem =>
            ih (.expr item) (List.mem_map_of_mem hitem)
      | tables tables =>
          rw [labels_eq]
          exact labels_commaSeparated_map fun table _ =>
            table.labels_pieces
      | join join =>
          exact join.labels_pieces (ih (.condition join.on)
            (List.mem_cons_of_mem _ List.mem_cons_self))
      | filter condition =>
          have hcondition := ih (.condition condition) List.mem_cons_self
          rw [labels_eq]
          simpa [ownLabels, children, pieces] using hcondition
      | order fields =>
          rw [labels_eq]
          exact labels_commaSeparated_map fun field hfield =>
            ih (.orderField field) (List.mem_map_of_mem hfield)
      | orderField field =>
          exact field.labels_pieces (ih (.expr field.expr) List.mem_cons_self)
      | table table => exact table.labels_pieces
      | expr expr => exact expr.labels_pieces ih
      | condition condition => exact condition.labels_pieces ih

end Labels

end SqlStatement
