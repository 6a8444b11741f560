import SqlStatement.Proofs.Reach
import SqlStatement.Proofs.Spelling
import Mathlib.Tactic

/-!
# Where the parts of a statement are written

Whatever a walk reaches from a node is written in one stretch within what is
written for the node.  In particular the references and the tables of a
statement are written in it as they are written alone, also when it stands in
parentheses in another one.
-/

namespace SqlStatement

namespace Piece

theorem infix_commaSeparated {part : List Piece} {parts : List (List Piece)}
    (h : part ∈ parts) : part <:+: commaSeparated parts := by
  unfold commaSeparated
  induction parts with
  | nil => cases h
  | cons first parts ih =>
      cases parts with
      | nil =>
          obtain rfl := List.mem_singleton.mp h
          rw [List.intercalate_singleton]
      | cons next parts =>
          rw [List.intercalate_cons_cons, List.append_assoc]
          rcases List.mem_cons.mp h with rfl | hlater
          · exact List.infix_append_left
          · exact List.infix_append_of_infix_right
              (List.infix_append_of_infix_right (ih hlater))

theorem infix_after_gap (before : List Piece) (gap : Piece)
    (after : List Piece) : after <:+: before ++ gap :: after :=
  List.infix_append_of_infix_right (List.infix_cons List.infix_rfl)

theorem infix_parenthesised (pieces : List Piece) :
    pieces <:+: parenthesised pieces :=
  List.infix_cons List.infix_append_left

theorem infix_parenthesisedIf (wrap : Bool) (pieces : List Piece) :
    pieces <:+: parenthesisedIf wrap pieces := by
  cases wrap with
  | false => exact List.infix_rfl
  | true => exact infix_parenthesised pieces

end Piece

variable (dialect : Dialect)

theorem Expr.infix_commaSeparated {exprs : List Expr} {expr : Expr}
    (h : expr ∈ exprs) :
    expr.pieces dialect <:+:
      Piece.commaSeparated (Expr.listPieces dialect exprs) := by
  rw [Expr.listPieces_eq_map]
  exact Piece.infix_commaSeparated (List.mem_map_of_mem h)

theorem Join.infix_listPieces {joins : List Join} {join : Join}
    (h : join ∈ joins) :
    join.pieces dialect <:+: Join.listPieces dialect joins := by
  rw [Join.listPieces_eq_flatMap, List.flatMap_def]
  exact (List.infix_cons List.infix_rfl).trans
    (List.infix_of_mem_flatten (List.mem_map_of_mem h))

theorem Dialect.infix_tail (order : List Piece) (limit offset : Option UInt64) :
    order <:+: dialect.tail (some order) limit offset := by
  have hspaced : order <:+: Piece.text " " :: order :=
    List.infix_cons List.infix_rfl
  unfold Dialect.tail
  cases dialect.position with
  | afterWhere =>
      simp only [List.flatMap_cons, List.flatMap_nil, List.append_nil]
      exact List.infix_append_of_infix_right hspaced
  | afterOrderBy =>
      simp only [List.flatMap_cons, List.flatMap_nil, List.append_nil]
      exact List.infix_append_of_infix_left hspaced

/-! ## Children -/

theorem Expr.infix_pieces_of_mem_children {expr : Expr} {child : Node}
    (h : child ∈ (Node.expr expr).children) :
    child.pieces dialect <:+: expr.pieces dialect := by
  cases expr with
  | subSelect select =>
      obtain rfl := List.mem_singleton.mp h
      exact Piece.infix_parenthesised _
  | function name args =>
      obtain ⟨arg, harg, rfl⟩ := List.mem_map.mp h
      have hargs := Expr.infix_commaSeparated dialect harg
      exact List.infix_cons (hargs.trans (Piece.infix_parenthesised _))
  | column _ | raw _ | asterisk _ | literal _ | bind _ => cases h

theorem Condition.infix_pieces_of_mem_children {condition : Condition}
    {child : Node} (h : child ∈ (Node.condition condition).children) :
    child.pieces dialect <:+: condition.pieces dialect := by
  cases condition with
  | comparison left comparator right =>
      rcases List.mem_pair.mp h with rfl | rfl
      · exact List.infix_append_left
      · exact (List.infix_cons (List.infix_cons List.infix_rfl)).trans
          (Piece.infix_after_gap _ _ _)
  | like left right =>
      rcases List.mem_pair.mp h with rfl | rfl
      · exact List.infix_append_left
      · exact Piece.infix_after_gap _ _ _
  | inList left args negated =>
      rcases List.mem_cons.mp h with rfl | hargs
      · exact List.infix_append_left
      · obtain ⟨arg, harg, rfl⟩ := List.mem_map.mp hargs
        have hlist := Expr.infix_commaSeparated dialect harg
        exact (hlist.trans (Piece.infix_parenthesisedIf _ _)).trans
          (Piece.infix_after_gap _ _ _)
  | isNull operand negated =>
      obtain rfl := List.mem_singleton.mp h
      exact List.infix_append_left
  | nested inner =>
      obtain rfl := List.mem_singleton.mp h
      exact Piece.infix_parenthesised _
  | raw text => cases h
  | and left right =>
      rcases List.mem_pair.mp h with rfl | rfl
      · exact (Piece.infix_parenthesisedIf _ _).trans List.infix_append_left
      · exact (Piece.infix_parenthesisedIf _ _).trans
          (Piece.infix_after_gap _ _ _)
  | or left right =>
      rcases List.mem_pair.mp h with rfl | rfl
      · exact (Piece.infix_parenthesisedIf _ _).trans List.infix_append_left
      · exact (Piece.infix_parenthesisedIf _ _).trans
          (Piece.infix_after_gap _ _ _)
  | not inner =>
      obtain rfl := List.mem_singleton.mp h
      exact List.infix_cons (Piece.infix_parenthesisedIf _ _)

theorem Select.infix_pieces_of_mem_children {select : Select} {child : Node}
    (h : child ∈ (Node.select select).children) :
    child.pieces dialect <:+: select.pieces dialect := by
  obtain ⟨distinct, items, tables, joins, filter, order, limit, offset⟩ :=
    select
  rw [Select.pieces]
  simp only [Node.children, List.cons_append, List.mem_cons, List.mem_append,
    List.mem_map, Option.mem_toList, Option.map_eq_some_iff] at h
  rcases h with rfl | rfl | (⟨join, hjoin, rfl⟩ | ⟨condition, rfl, rfl⟩) |
    horder
  · have hitems : (Node.items items).pieces dialect =
        Piece.commaSeparated (Expr.listPieces dialect items) := by
      rw [Node.pieces, Expr.listPieces_eq_map]
    rw [hitems]
    exact List.infix_append_of_infix_left (List.infix_append_of_infix_left
      (List.infix_append_of_infix_left (List.infix_append_of_infix_left
        (List.infix_cons List.infix_rfl))))
  · exact List.infix_append_of_infix_left (List.infix_append_of_infix_left
      (List.infix_append_of_infix_left (Piece.infix_after_gap _ _ _)))
  · have hjoins := Join.infix_listPieces dialect hjoin
    exact List.infix_append_of_infix_left (List.infix_append_of_infix_left
      (List.infix_append_of_infix_right hjoins))
  · exact List.infix_append_of_infix_left (List.infix_append_of_infix_right
      (List.infix_cons List.infix_rfl))
  · cases order with
    | nil => simp at horder
    | cons field fields =>
        obtain rfl := List.mem_singleton.mp horder
        have hfields : Piece.commaSeparated
              ((field :: fields).map (OrderField.pieces dialect)) <:+:
            Piece.text "ORDER BY " :: Piece.commaSeparated
              ((field :: fields).map (OrderField.pieces dialect)) :=
          List.infix_cons List.infix_rfl
        rw [OrderField.orderByPieces, OrderField.listPieces_eq_map,
          ← List.map_cons]
        exact List.infix_append_of_infix_right
          (hfields.trans (dialect.infix_tail _ limit offset))

namespace Node

theorem infix_pieces_of_mem_children {node child : Node}
    (h : child ∈ node.children) :
    child.pieces dialect <:+: node.pieces dialect := by
  cases node with
  | select select => exact select.infix_pieces_of_mem_children dialect h
  | items items =>
      obtain ⟨item, hitem, rfl⟩ := List.mem_map.mp h
      exact Piece.infix_commaSeparated (List.mem_map_of_mem hitem)
  | tables tables =>
      obtain ⟨table, htable, rfl⟩ := List.mem_map.mp h
      exact Piece.infix_commaSeparated (List.mem_map_of_mem htable)
  | join join =>
      obtain ⟨kind, table, on⟩ := join
      rw [pieces, Join.pieces]
      rcases List.mem_pair.mp h with rfl | rfl
      · exact List.infix_append_of_infix_left
          (List.infix_cons (List.infix_cons List.infix_rfl))
      · exact Piece.infix_after_gap _ _ _
  | filter condition =>
      obtain rfl := List.mem_singleton.mp h
      exact List.infix_rfl
  | order fields =>
      obtain ⟨field, hfield, rfl⟩ := List.mem_map.mp h
      exact Piece.infix_commaSeparated (List.mem_map_of_mem hfield)
  | orderField field =>
      obtain ⟨expr, direction, nulls⟩ := field
      obtain rfl := List.mem_singleton.mp h
      change expr.pieces dialect <:+:
        OrderField.pieces dialect ⟨expr, direction, nulls⟩
      unfold OrderField.pieces
      exact List.infix_append_of_infix_left List.infix_append_left
  | table table => cases h
  | expr expr => exact expr.infix_pieces_of_mem_children dialect h
  | condition condition =>
      exact condition.infix_pieces_of_mem_children dialect h

/-! ## Everything below -/

theorem Reaches.infix_pieces {node target : Node}
    (h : node.Reaches target) :
    target.pieces dialect <:+: node.pieces dialect := by
  induction h with
  | self => exact List.infix_rfl
  | child hmem _ ih =>
      exact ih.trans (infix_pieces_of_mem_children dialect hmem)

end Node

namespace Select

theorem reaches_of_mem_imported {select : Select} {table : Table}
    (h : table ∈ select.tables ++ select.joins.map Join.table) :
    (Node.select select).Reaches (.table table) := by
  rcases List.mem_append.mp h with hfrom | hjoined
  · have htables : Node.tables select.tables ∈
        (Node.select select).children :=
      List.mem_cons_of_mem _ List.mem_cons_self
    exact .child htables (.child (List.mem_map_of_mem hfrom) (.self _))
  · obtain ⟨join, hjoin, rfl⟩ := List.mem_map.mp hjoined
    exact .child (join_mem_children hjoin) (.child List.mem_cons_self (.self _))

theorem Within.eq_or_reaches {inner select : Select}
    (h : inner.Within select) :
    inner = select ∨
      (Node.select select).Reaches (.expr (.subSelect inner)) := by
  induction h with
  | self => exact .inl rfl
  | deeper hsub _ ih =>
      right
      obtain ⟨expr, hexpr, hselect⟩ := List.mem_filterMap.mp hsub
      cases expr with
      | subSelect sub =>
          obtain rfl := Option.some.inj hselect
          have hreached := Select.reaches_of_mem_scope _ _ hexpr
          rcases ih with rfl | hdeeper
          · exact hreached
          · exact hreached.trans (.child List.mem_cons_self hdeeper)
      | _ => cases hselect

theorem Within.reaches {inner select : Select} (h : inner.Within select) :
    (Node.select select).Reaches (.select inner) := by
  rcases h.eq_or_reaches with rfl | hreached
  · exact .self _
  · exact hreached.trans (.child List.mem_cons_self (.self _))

end Select

end SqlStatement
