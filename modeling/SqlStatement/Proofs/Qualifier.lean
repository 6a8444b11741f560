import SqlStatement.Proofs.Occurrence
import SqlStatement.Proofs.Resolution
import Mathlib.Tactic

/-!
# Qualifiers

A column and the asterisk of one table are written with a qualifier before a
dot.  The import check compares names, and whether a name is quoted may be
wished for in one place and not in the other; but when all names are quoted, or
none, equal names are spelled alike.  Then the qualifier is the text by which a
table of FROM or JOIN goes in the same statement: its alias, after the name and
the word between them, or else its name.
-/

namespace SqlStatement

/-- An expression of the statement's own scope belongs to a table and is
checked for it: a column or an asterisk of one table in the select list, or a
column in the WHERE or the ORDER BY. -/
inductive Select.Refers (select : Select) (expr : Expr) (table : Table) :
    Prop where
  | item (hmem : expr ∈ select.items.flatMap Expr.scope)
      (htable : expr.sourceTable? = some table)
  | filter (hmem : expr ∈ select.filter.toList.flatMap Condition.scope)
      (htable : expr.columnTable? = some table)
  | order (hmem : expr ∈ select.order.flatMap (Expr.scope ∘ OrderField.expr))
      (htable : expr.columnTable? = some table)

/-- What stands after the dot of a reference. -/
def Style.member (style : Style) : Expr → String
  | .column column => style.identifier column.name
  | _ => "*"

/-- The text before the dot of a reference is the one by which an imported
table goes. -/
structure Style.Qualifies (style : Style) (qualifier : String) (expr : Expr)
    (imported : Table) : Prop where
  expr_eq : style.expr expr = qualifier ++ "." ++ style.member expr
  reference_eq : style.identifier imported.reference = qualifier
  table_eq : style.table imported =
    match imported.aliasName?, style.dialect.aliasKeyword with
    | none, _ => qualifier
    | some _, none => style.identifier imported.name ++ " " ++ qualifier
    | some _, some keyword =>
        style.identifier imported.name ++ " " ++ keyword ++ " " ++ qualifier

/-! ## References and tables in text -/

theorem Expr.sourceTable?_of_columnTable? {expr : Expr} {table : Table}
    (h : expr.columnTable? = some table) : expr.sourceTable? = some table := by
  cases expr with
  | column column => exact h
  | _ => cases h

namespace Style

theorem identifier_eq_of_name_eq {style : Style}
    (hquoting : style.quoting = .always ∨ style.quoting = .never)
    {first second : Identifier} (hname : first.name = second.name) :
    style.identifier first = style.identifier second := by
  unfold identifier
  rcases hquoting with halways | hnever
  · rw [halways, hname]
    rfl
  · rw [hnever, hname]
    rfl

theorem expr_eq_of_sourceTable? (style : Style) {expr : Expr} {table : Table}
    (h : expr.sourceTable? = some table) :
    style.expr expr =
      style.identifier table.reference ++ "." ++ style.member expr := by
  cases expr with
  | column column =>
      obtain rfl := Option.some.inj h
      simp [Style.expr, Expr.pieces, Column.pieces, piece, member,
        String.append_assoc]
  | asterisk table? =>
      obtain rfl : table? = some table := h
      simp [Style.expr, Expr.pieces, piece, member, String.append_assoc]
  | _ => cases h

theorem table_eq_of_reference (style : Style) (table : Table) :
    style.table table =
      match table.aliasName?, style.dialect.aliasKeyword with
      | none, _ => style.identifier table.reference
      | some _, none =>
          style.identifier table.name ++ " " ++
            style.identifier table.reference
      | some _, some keyword =>
          style.identifier table.name ++ " " ++ keyword ++ " " ++
            style.identifier table.reference := by
  obtain ⟨name, aliasName?⟩ := table
  unfold Style.table Table.pieces
  cases aliasName? with
  | none => simp [piece, Table.reference]
  | some aliasName =>
      cases style.dialect.aliasKeyword with
      | none => simp [piece, Table.reference, String.append_assoc]
      | some keyword => simp [piece, Table.reference, String.append_assoc]

end Style

/-! ## References that were checked -/

namespace Select

theorem Refers.sourceTable?_eq {select : Select} {expr : Expr} {table : Table}
    (h : select.Refers expr table) : expr.sourceTable? = some table := by
  cases h with
  | item _ htable => exact htable
  | filter _ htable => exact Expr.sourceTable?_of_columnTable? htable
  | order _ htable => exact Expr.sourceTable?_of_columnTable? htable

theorem Refers.mem_scope {select : Select} {expr : Expr} {table : Table}
    (h : select.Refers expr table) : expr ∈ select.scope := by
  simp only [scope, List.mem_append]
  cases h with
  | item hmem _ => exact .inl (.inl (.inl hmem))
  | filter hmem _ => exact .inl (.inr hmem)
  | order hmem _ => exact .inr hmem

theorem Refers.imports {select : Select} {expr : Expr} {table : Table}
    (h : select.Refers expr table) (hvalid : select.Valid) :
    select.Imports table.reference := by
  cases h with
  | item hmem htable =>
      have hrequired := mem_inClause_filterMap .selectColumn hmem htable
      exact hvalid.imports_of_mem_required
        (List.mem_append_left _ (List.mem_append_left _ hrequired))
  | filter hmem htable =>
      have hrequired := mem_inClause_filterMap .wherePredicate hmem htable
      exact hvalid.imports_of_mem_required
        (List.mem_append_left _ (List.mem_append_right _ hrequired))
  | order hmem htable =>
      have hrequired := mem_inClause_filterMap .orderByColumn hmem htable
      exact hvalid.imports_of_mem_required
        (List.mem_append_right _ hrequired)

theorem Imports.exists_table {select : Select} {name : Identifier}
    (h : select.Imports name) :
    ∃ imported ∈ select.tables ++ select.joins.map Join.table,
      imported.reference.name = name.name := by
  obtain ⟨reference, hmem, hname⟩ := h
  have hreferences : select.fromNames ++ select.joinNames =
      (select.tables ++ select.joins.map Join.table).map Table.reference := by
    rw [List.map_append, List.map_map]
    rfl
  rw [hreferences] at hmem
  obtain ⟨imported, himported, rfl⟩ := List.mem_map.mp hmem
  exact ⟨imported, himported, hname⟩

end Select

/-- In a statement that was obtained, and in each one in it, what stands before
the dot of a reference is written where a table is imported. -/
theorem references_keep_their_tables (style : Style)
    (hquoting : style.quoting = .always ∨ style.quoting = .never)
    (select : Select) (h : select.Obtainable) (inner : Select)
    (hinner : inner.Within select) (expr : Expr) (table : Table)
    (hrefers : inner.Refers expr table) :
    style.renderSelect select =
        .ok (style.write (select.pieces style.dialect)) ∧
      expr.pieces style.dialect <:+: inner.pieces style.dialect ∧
      inner.pieces style.dialect <:+: select.pieces style.dialect ∧
      ∃ imported ∈ inner.tables ++ inner.joins.map Join.table,
        imported.pieces style.dialect <:+: inner.pieces style.dialect ∧
        ∃ qualifier, style.Qualifies qualifier expr imported := by
  have hvalid : inner.Valid := (h.of_within hinner).valid
  have hwritten : expr.pieces style.dialect <:+:
      inner.pieces style.dialect :=
    (inner.reaches_of_mem_scope expr hrefers.mem_scope).infix_pieces
      style.dialect
  obtain ⟨imported, himported, hname⟩ :=
    (hrefers.imports hvalid).exists_table
  have hspelled : style.identifier imported.reference =
      style.identifier table.reference :=
    Style.identifier_eq_of_name_eq hquoting hname
  refine ⟨style.renderSelect_eq select h, hwritten,
    hinner.reaches.infix_pieces style.dialect, imported, himported,
    (Select.reaches_of_mem_imported himported).infix_pieces style.dialect,
    style.identifier imported.reference, ?_⟩
  constructor
  case expr_eq =>
    rw [hspelled]
    exact style.expr_eq_of_sourceTable? hrefers.sourceTable?_eq
  case reference_eq => rfl
  case table_eq => exact style.table_eq_of_reference imported

/-- Of the statement in parentheses, in which the table has an alias. -/
theorem buyer_keeps_its_table :
    ((.always : Quoting) = .always ∨ (.always : Quoting) = .never) ∧
      Draft.buyers.select.Obtainable ∧
      Draft.buyerIds.select.Within Draft.buyers.select ∧
      Draft.buyerIds.select.Refers (.column ⟨Draft.orders, Draft.buyer⟩)
        Draft.orders ∧
      ∃ imported ∈ Draft.buyerIds.select.tables ++
          Draft.buyerIds.select.joins.map Join.table,
        ∃ qualifier, (⟨Dialect.mysql, .always⟩ : Style).Qualifies qualifier
            (.column ⟨Draft.orders, Draft.buyer⟩) imported ∧
          qualifier = "`o`" ∧
          (⟨Dialect.mysql, .always⟩ : Style).expr
            (.column ⟨Draft.orders, Draft.buyer⟩) = "`o`.`buyer`" ∧
          (⟨Dialect.mysql, .always⟩ : Style).table imported =
            "`orders` AS `o`" := by
  have hinner : Draft.buyerIds.select.Within Draft.buyers.select :=
    .deeper (List.mem_singleton_self _) (.self _)
  have hrefers : Draft.buyerIds.select.Refers
      (.column ⟨Draft.orders, Draft.buyer⟩) Draft.orders :=
    .item (List.mem_singleton_self _) rfl
  obtain ⟨_, _, _, imported, himported, _, qualifier, hqualifies⟩ :=
    references_keep_their_tables ⟨Dialect.mysql, .always⟩ (.inl rfl)
      Draft.buyers.select Draft.buyers_obtainable Draft.buyerIds.select hinner
      (.column ⟨Draft.orders, Draft.buyer⟩) Draft.orders hrefers
  have horders : imported = Draft.orders := List.mem_singleton.mp himported
  have hqualifier : qualifier = "`o`" := by
    rw [← hqualifies.reference_eq, horders]
    cbv
  refine ⟨.inl rfl, Draft.buyers_obtainable, hinner, hrefers, imported,
    himported, qualifier, hqualifies, hqualifier, ?_, ?_⟩
  · rw [hqualifies.expr_eq, hqualifier]
    cbv
  · rw [hqualifies.table_eq, hqualifier, horders]
    cbv

end SqlStatement
