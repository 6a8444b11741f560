import SqlStatement.Proofs.ClosedScope
import SqlStatement.Proofs.Occurrence
import SqlStatement.Proofs.Rebuild
import SqlStatement.Proofs.StyleAgreement
import Mathlib.Tactic

/-!
# The sections that paging adds

The text of a statement is that of its clauses up to the WHERE, followed by its
ORDER BY and its paging.  A limit and an offset change nothing in the clauses.
They add a section of their own, before or after the ORDER BY as the dialect
has it, and where the dialect asks for an ORDER BY and the statement has none,
they add that one, too.

This holds of every statement in parentheses as well, since those were obtained
before.  To compare a statement with itself without its paging and without its
ORDER BY, these are shown to be obtainable first.
-/

namespace SqlStatement

/-! ## Statements that hold less -/

namespace Select

/-- A statement with the same select list and the same tables, which otherwise
has no more in it than one that was obtained. -/
theorem Obtainable.of_subset {select other : Select} (h : select.Obtainable)
    (hitems : other.items = select.items)
    (htables : other.tables = select.tables)
    (hjoins : other.joinNames = select.joinNames)
    (hrequired : other.required ⊆ select.required)
    (hchildren : (Node.select other).children ⊆
      (Node.select select).children)
    (hsubs : other.subSelects ⊆ select.subSelects) : other.Obtainable := by
  have hvalid := h.valid
  apply obtainable_of_check
  · exact fun sub hsub => h.of_mem_subSelects (hsubs hsub)
  · rw [check_eq_ok_iff]
    refine ⟨?_, ?_, ?_, ?_⟩
    · rw [hitems]
      exact hvalid.items_ne_nil
    · rw [htables]
      exact hvalid.tables_ne_nil
    · rw [Node.checkShapes_eq_ok_iff]
      refine ⟨rfl, fun child hmem => ?_⟩
      exact ((Node.checkShapes_eq_ok_iff _).mp h.checkShapes_eq_ok).2 child
        (hchildren hmem)
    · have himports := hvalid.imports
      rw [checkImports_eq, Imports.finish_eq_ok_iff] at himports ⊢
      intro requirement hmem
      have himported := himports requirement (hrequired hmem)
      rw [Imports.isImported_eq_true_iff] at himported ⊢
      simpa only [fromNames, htables, hjoins] using himported

/-- The statement without its limit and its offset. -/
def unpaged (select : Select) : Select :=
  { select with limit := none, offset := none }

/-- The statement without its ORDER BY. -/
def unordered (select : Select) : Select :=
  { select with order := [] }

theorem Obtainable.unpaged {select : Select} (h : select.Obtainable) :
    select.unpaged.Obtainable :=
  h.of_subset rfl rfl rfl (List.Subset.refl _) (List.Subset.refl _)
    (List.Subset.refl _)

theorem Obtainable.unordered {select : Select} (h : select.Obtainable) :
    select.unordered.Obtainable := by
  refine h.of_subset rfl rfl rfl ?_ ?_ ?_
  · simp [required, Select.unordered, inClause]
  · intro child hmem
    exact List.mem_append_left _
      (by simpa [Node.children, Select.unordered] using hmem)
  · intro sub hmem
    rw [subSelects_eq] at hmem ⊢
    exact List.mem_append_left _ (by simpa [Select.unordered] using hmem)

end Select

/-! ## Clauses and sections -/

theorem Dialect.exists_paging (dialect : Dialect) {limit offset : Option UInt64}
    (h : limit ≠ none ∨ offset ≠ none) :
    ∃ text, dialect.paging limit offset = some text := by
  cases limit with
  | some limit => cases offset <;> exact ⟨_, rfl⟩
  | none =>
      cases offset with
      | some offset => exact ⟨_, rfl⟩
      | none => simp at h

namespace Style

variable (style : Style)

/-- The text of a statement from SELECT to the end of the WHERE. -/
def clauses (select : Select) : String :=
  "SELECT " ++ (if select.distinct then "DISTINCT " else "") ++
    ", ".intercalate (select.items.map style.expr) ++
    " FROM " ++ ", ".intercalate (select.tables.map style.table) ++
    String.join (select.joins.map fun join => " " ++ style.join join) ++
    String.join (select.filter.toList.map fun condition =>
      " WHERE " ++ style.condition condition)

/-- The ORDER BY of these fields after a space. -/
def orderSection (fields : List OrderField) : String :=
  if fields.isEmpty then ""
  else " ORDER BY " ++ ", ".intercalate (fields.map style.orderField)

/-- The ORDER BY of a paged statement, after a space: its own one, or else the
one that the dialect asks for. -/
def pagedOrderSection (fields : List OrderField) : String :=
  if fields.isEmpty then
    match style.dialect.pagingOrder with
    | some order => " " ++ order
    | none => ""
  else style.orderSection fields

theorem space_append_orderBy (fields : String) :
    " " ++ ("ORDER BY " ++ fields) = " ORDER BY " ++ fields := by
  rw [← String.append_assoc]
  rfl

theorem select_eq_clauses_append (select : Select) :
    style.select select =
      style.clauses select ++ String.join ((style.tail
        (style.orderBy? select.order) select.limit select.offset).map
          fun part => " " ++ part) :=
  style.select_eq select

theorem select_eq_of_unpaged {select : Select} (hlimit : select.limit = none)
    (hoffset : select.offset = none) :
    style.select select =
      style.clauses select ++ style.orderSection select.order := by
  rw [select_eq_clauses_append, hlimit, hoffset]
  unfold Style.tail orderSection orderBy?
  cases style.dialect.position <;> cases select.order <;>
    simp [Dialect.paging, space_append_orderBy]

theorem select_eq_of_paged {select : Select} {tail : String}
    (htail : style.dialect.paging select.limit select.offset = some tail) :
    style.select select =
      match style.dialect.position with
      | .afterOrderBy =>
          style.clauses select ++ style.pagedOrderSection select.order ++
            " " ++ tail
      | .afterWhere =>
          style.clauses select ++ " " ++ tail ++
            style.pagedOrderSection select.order := by
  rw [select_eq_clauses_append]
  unfold Style.tail pagedOrderSection orderSection orderBy?
  rw [htail]
  cases style.dialect.position <;> cases select.order <;>
    cases style.dialect.pagingOrder <;>
      simp [String.append_assoc, space_append_orderBy]

/-- What a statement without its paging has in common with one that is paged,
and what the paging adds. -/
structure InsertsPaging (select : Select) (text base : String) : Prop where
  rendered : style.renderSelect select = .ok text
  base_rendered : style.renderSelect select.unpaged.unordered = .ok base
  base_eq : base = style.clauses select
  unpaged_rendered : style.renderSelect select.unpaged =
    .ok (base ++ style.orderSection select.order)
  eq_of_unpaged : select.limit = none → select.offset = none →
    text = base ++ style.orderSection select.order
  eq_of_paged : select.limit ≠ none ∨ select.offset ≠ none →
    ∃ tail, style.dialect.paging select.limit select.offset = some tail ∧
      text =
        match style.dialect.position with
        | .afterOrderBy =>
            base ++ style.pagedOrderSection select.order ++ " " ++ tail
        | .afterWhere =>
            base ++ " " ++ tail ++ style.pagedOrderSection select.order

theorem insertsPaging {select : Select} (h : select.Obtainable) :
    style.InsertsPaging select (style.select select)
      (style.clauses select) := by
  have hbase : style.select select.unpaged.unordered =
      style.clauses select ++ style.orderSection [] :=
    style.select_eq_of_unpaged rfl rfl
  constructor
  case rendered => exact style.renderSelect_eq select h
  case base_rendered =>
    rw [style.renderSelect_eq _ h.unpaged.unordered, hbase]
    simp [orderSection]
  case base_eq => rfl
  case unpaged_rendered =>
    rw [style.renderSelect_eq _ h.unpaged]
    exact congrArg Except.ok (style.select_eq_of_unpaged rfl rfl)
  case eq_of_unpaged => exact style.select_eq_of_unpaged
  case eq_of_paged =>
    intro hpaged
    obtain ⟨tail, htail⟩ := style.dialect.exists_paging hpaged
    exact ⟨tail, htail, style.select_eq_of_paged htail⟩

end Style

/-! ## Statements in parentheses -/

theorem Style.exists_around (style : Style) {inner select : Select}
    (h : (Node.select select).Reaches (.expr (.subSelect inner))) :
    ∃ before after, style.select select =
      before ++ "(" ++ style.select inner ++ ")" ++ after := by
  obtain ⟨before, after, hpieces⟩ := h.infix_pieces style.dialect
  simp only [Node.pieces, Expr.pieces] at hpieces
  refine ⟨style.write before, style.write after, ?_⟩
  unfold Style.select
  rw [← hpieces, write_append, write_append, write_parenthesised]
  simp only [String.append_assoc]

/-! ## Paging after an ORDER BY only -/

theorem Dialect.exists_offset {limit offset : Option UInt64} {tail : String}
    (h : Dialect.sqlServer.paging limit offset = some tail) :
    ∃ rest, tail = "OFFSET " ++ rest := by
  cases limit with
  | none =>
      cases offset with
      | none => cases h
      | some offset =>
          obtain rfl := Option.some.inj h
          exact ⟨decimal offset ++ " ROWS", String.append_assoc⟩
  | some limit =>
      cases offset with
      | none =>
          obtain rfl := Option.some.inj h
          refine ⟨"0 ROWS FETCH NEXT " ++ (decimal limit ++ " ROWS ONLY"), ?_⟩
          rw [← String.append_assoc]
          exact String.append_assoc
      | some offset =>
          obtain rfl := Option.some.inj h
          refine ⟨decimal offset ++ (" ROWS FETCH NEXT " ++
            (decimal limit ++ " ROWS ONLY")), ?_⟩
          simp only [sqlServer, String.append_assoc]

theorem Style.exists_keys {style : Style}
    (h : style.dialect = Dialect.sqlServer) (fields : List OrderField) :
    ∃ keys, style.pagedOrderSection fields = " ORDER BY " ++ keys := by
  unfold pagedOrderSection orderSection
  cases fields with
  | nil =>
      rw [h]
      exact ⟨"(SELECT 1)", rfl⟩
  | cons field fields => exact ⟨_, rfl⟩

/-! ## Statements without any paging -/

namespace Style

/-- The same style of a dialect that asks for another ORDER BY when a statement
is paged. -/
def withPagingOrder (style : Style) (pagingOrder : Option String) : Style :=
  { style with dialect := { style.dialect with pagingOrder := pagingOrder } }

theorem select_withPagingOrder (style : Style) (pagingOrder : Option String)
    {select : Select}
    (h : ∀ reached, (Node.select select).Reaches (.select reached) →
      reached.limit = none ∧ reached.offset = none) :
    (style.withPagingOrder pagingOrder).select select =
      style.select select := by
  have hagrees : (style.withPagingOrder pagingOrder).AgreesOn style
      (.select select) := by
    refine ⟨fun _ _ => rfl, rfl, fun reached hreached => ?_⟩
    obtain ⟨hlimit, hoffset⟩ := h reached hreached
    exact .of_unpaged hlimit hoffset
  exact hagrees.select_eq

end Style

/-! ## The law -/

/-- The paging of a statement that was obtained, and of each one in it, inserts
its own sections and changes nothing else, and the ORDER BY that a dialect asks
for is written for paged statements only.  On SQL Server every OFFSET stands
right after an ORDER BY of the same statement. -/
theorem paging_inserts_its_sections (style : Style) (select : Select)
    (h : select.Obtainable) (inner : Select) (hinner : inner.Within select) :
    ∃ text innerText base, style.renderSelect select = .ok text ∧
      (inner = select ∨
        ∃ before after, text = before ++ "(" ++ innerText ++ ")" ++ after) ∧
      style.InsertsPaging inner innerText base ∧
      ((∀ reached, (Node.select select).Reaches (.select reached) →
          reached.limit = none ∧ reached.offset = none) →
        ∀ pagingOrder,
          (style.withPagingOrder pagingOrder).renderSelect select =
            .ok text) ∧
      (style.dialect = Dialect.sqlServer →
        inner.limit ≠ none ∨ inner.offset ≠ none →
          ∃ keys rest,
            style.pagedOrderSection inner.order = " ORDER BY " ++ keys ∧
            style.dialect.paging inner.limit inner.offset =
              some ("OFFSET " ++ rest) ∧
            innerText =
              base ++ " ORDER BY " ++ keys ++ " OFFSET " ++ rest) := by
  have hinserts := style.insertsPaging (h.of_within hinner)
  refine ⟨style.select select, style.select inner, style.clauses inner,
    style.renderSelect_eq select h, ?_, hinserts, ?_, ?_⟩
  · rcases hinner.eq_or_reaches with heq | hreached
    · exact .inl heq
    · exact .inr (style.exists_around hreached)
  · intro hunpaged pagingOrder
    rw [Style.renderSelect_eq _ select h,
      style.select_withPagingOrder pagingOrder hunpaged]
  · intro hserver hpaged
    obtain ⟨tail, htail, htext⟩ := hinserts.eq_of_paged hpaged
    obtain ⟨keys, hkeys⟩ := Style.exists_keys hserver inner.order
    have hposition : style.dialect.position = .afterOrderBy := by
      rw [hserver]
      rfl
    obtain ⟨rest, rfl⟩ := Dialect.exists_offset (hserver ▸ htail)
    have hspace : " " ++ ("OFFSET " ++ rest) = " OFFSET " ++ rest := by
      rw [← String.append_assoc]
      rfl
    refine ⟨keys, rest, hkeys, htail, ?_⟩
    rw [htext, hposition, hkeys]
    simp only [String.append_assoc, hspace]

namespace Draft

/-- The ids of the last buyers in a list of five. -/
def lastBuyerIds : Draft :=
  buyerIds.addAll
    [.order [⟨.column ⟨orders, buyer⟩, some .desc, none⟩], .limit 5]

/-- Of those buyers, all but the first three. -/
def lastBuyers : Draft :=
  (start [.asterisk (some users)] [users]).addAll
    [.filter (.inList (.column userId) [.subSelect lastBuyerIds.select] false),
      .offset 3]

theorem lastBuyerIds_obtainable : lastBuyerIds.select.Obtainable := by
  have hcheck : lastBuyerIds.select.check = .ok () := by cbv
  exact Select.obtainable_of_check (List.forall_mem_nil _) hcheck

theorem lastBuyers_obtainable : lastBuyers.select.Obtainable := by
  have hcheck : lastBuyers.select.check = .ok () := by cbv
  exact Select.obtainable_of_check
    (List.forall_mem_singleton.mpr lastBuyerIds_obtainable) hcheck

end Draft

/-- Of the statement in parentheses, on a database that pages only after an
ORDER BY. -/
theorem lastBuyers_paged_by_sections :
    Draft.lastBuyers.select.Obtainable ∧
      Draft.lastBuyerIds.select.Within Draft.lastBuyers.select ∧
      (Draft.lastBuyerIds.select.limit ≠ none ∨
        Draft.lastBuyerIds.select.offset ≠ none) ∧
      ∃ text innerText base keys rest,
        (⟨Dialect.sqlServer, .never⟩ : Style).renderSelect
          Draft.lastBuyers.select = .ok text ∧
        text = "SELECT users.* FROM users WHERE users.id IN (" ++ innerText ++
          ") ORDER BY (SELECT 1) OFFSET 3 ROWS" ∧
        base = "SELECT o.buyer FROM orders AS o" ∧
        innerText = base ++ " ORDER BY " ++ keys ++ " OFFSET " ++ rest := by
  have hwithin : Draft.lastBuyerIds.select.Within Draft.lastBuyers.select :=
    .deeper (List.mem_singleton_self _) (.self _)
  have hpaged : Draft.lastBuyerIds.select.limit ≠ none ∨
      Draft.lastBuyerIds.select.offset ≠ none :=
    .inl (Option.some_ne_none 5)
  obtain ⟨text, innerText, base, htext, _, hinserts, _, hserver⟩ :=
    paging_inserts_its_sections ⟨Dialect.sqlServer, .never⟩
      Draft.lastBuyers.select Draft.lastBuyers_obtainable
      Draft.lastBuyerIds.select hwithin
  obtain ⟨keys, rest, _, _, hinner⟩ := hserver rfl hpaged
  have hinnerText : innerText = _ := Except.ok.inj
    (hinserts.rendered.symm.trans (Style.renderSelect_eq _ _
      Draft.lastBuyerIds_obtainable))
  have houterText : text = _ := Except.ok.inj
    (htext.symm.trans (Style.renderSelect_eq _ _ Draft.lastBuyers_obtainable))
  refine ⟨Draft.lastBuyers_obtainable, hwithin, hpaged, text, innerText, base,
    keys, rest, htext, ?_, ?_, hinner⟩
  · rw [hinnerText, houterText]
    cbv
  · rw [hinserts.base_eq]
    cbv

end SqlStatement
