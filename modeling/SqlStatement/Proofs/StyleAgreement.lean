import SqlStatement.Proofs.Labels
import Mathlib.Tactic

/-!
# Styles that agree

A style shows in a text only in how the names are written, in the word before
an alias, and in the paging.  Of the paging of a statement it is the text for
its limit and its offset that counts, on which side of the ORDER BY this
stands, and, if the statement has no ORDER BY of its own, which one the dialect
asks for.  Where a statement is not paged none of this counts.

So two styles that agree on these for a node and for all that is below it make
one text of it.
-/

namespace SqlStatement

namespace Select

def Paged (select : Select) : Prop :=
  select.limit ≠ none ∨ select.offset ≠ none

/-- Two dialects page the statement alike, if it is paged at all. -/
structure PagedAlike (first second : Dialect) (select : Select) : Prop where
  text : select.Paged → first.paging select.limit select.offset =
    second.paging select.limit select.offset
  position : select.Paged → first.position = second.position
  order : select.Paged → select.order = [] →
    first.pagingOrder = second.pagingOrder

theorem PagedAlike.of_unpaged {first second : Dialect} {select : Select}
    (hlimit : select.limit = none) (hoffset : select.offset = none) :
    select.PagedAlike first second := by
  have hunpaged : ¬ select.Paged := by simp [Paged, hlimit, hoffset]
  constructor <;> exact fun hpaged => absurd hpaged hunpaged

end Select

/-! ## Layouts -/

section Layout

variable {dialect other : Dialect}

theorem Expr.pieces_eq_of_children {expr : Expr}
    (hchild : ∀ child ∈ (Node.expr expr).children,
      child.pieces other = child.pieces dialect) :
    expr.pieces other = expr.pieces dialect := by
  cases expr with
  | subSelect select =>
      have hselect := hchild (.select select) List.mem_cons_self
      simp only [Node.pieces] at hselect
      rw [pieces, pieces, hselect]
  | function name args =>
      have hargs : args.map (pieces other) = args.map (pieces dialect) :=
        List.map_congr_left fun arg harg =>
          hchild (.expr arg) (List.mem_map_of_mem harg)
      rw [pieces, pieces, listPieces_eq_map, listPieces_eq_map, hargs]
  | asterisk table => cases table <;> rfl
  | bind name => cases name <;> rfl
  | _ => rfl

theorem Condition.pieces_eq_of_children {condition : Condition}
    (hchild : ∀ child ∈ (Node.condition condition).children,
      child.pieces other = child.pieces dialect) :
    condition.pieces other = condition.pieces dialect := by
  cases condition with
  | comparison left comparator right | like left right
  | and left right | or left right =>
      have hleft := hchild _ List.mem_cons_self
      have hright := hchild _ (right_mem_children rfl)
      simp only [Node.pieces] at hleft hright
      rw [pieces, pieces, hleft, hright]
  | inList left args negated =>
      have hleft := hchild _ List.mem_cons_self
      have hargs : args.map (Expr.pieces other) =
          args.map (Expr.pieces dialect) :=
        List.map_congr_left fun arg harg => hchild (.expr arg)
          (List.mem_cons_of_mem _ (List.mem_map_of_mem harg))
      simp only [Node.pieces] at hleft
      rw [pieces, pieces, hleft, Expr.listPieces_eq_map,
        Expr.listPieces_eq_map, hargs]
  | isNull inner negated | nested inner | not inner =>
      have hinner := hchild _ List.mem_cons_self
      simp only [Node.pieces] at hinner
      rw [pieces, pieces, hinner]
  | raw text => rfl

theorem Table.pieces_eq_of_aliasKeyword
    (halias : other.aliasKeyword = dialect.aliasKeyword) (table : Table) :
    table.pieces other = table.pieces dialect := by
  unfold pieces
  rw [halias]

theorem Join.listPieces_eq_of_mem {joins : List Join}
    (h : ∀ join ∈ joins, join.pieces other = join.pieces dialect) :
    listPieces other joins = listPieces dialect joins := by
  rw [listPieces_eq_flatMap, listPieces_eq_flatMap]
  exact List.flatMap_congr fun join hmem => by rw [h join hmem]

theorem OrderField.eq_nil_of_orderByPieces {fields : List OrderField}
    (h : orderByPieces dialect fields = none) : fields = [] := by
  cases fields with
  | nil => rfl
  | cons field fields => cases h

theorem Select.tail_eq_of_pagedAlike {select : Select}
    (h : select.PagedAlike other dialect) (order : Option (List Piece))
    (horder : order = none → select.order = []) :
    other.tail order select.limit select.offset =
      dialect.tail order select.limit select.offset := by
  by_cases hpaged : select.Paged
  · unfold Dialect.tail
    rw [h.text hpaged, h.position hpaged]
    cases order with
    | some order => rfl
    | none => rw [h.order hpaged (horder rfl)]
  · obtain ⟨hlimit, hoffset⟩ : select.limit = none ∧ select.offset = none := by
      simpa [Paged] using hpaged
    unfold Dialect.tail
    rw [hlimit, hoffset]
    cases other.position <;> cases dialect.position <;> cases order <;> rfl

theorem Select.pieces_eq_of_pagedAlike {select : Select}
    (hpaging : select.PagedAlike other dialect)
    (hchild : ∀ child ∈ (Node.select select).children,
      child.pieces other = child.pieces dialect) :
    select.pieces other = select.pieces dialect := by
  have hitems := hchild (.items select.items) List.mem_cons_self
  have htables := hchild (.tables select.tables)
    (List.mem_cons_of_mem _ List.mem_cons_self)
  have hjoins := Join.listPieces_eq_of_mem fun join hjoin =>
    hchild (.join join) (Select.join_mem_children hjoin)
  have hfilter : Condition.wherePieces other select.filter =
      Condition.wherePieces dialect select.filter := by
    cases hcondition : select.filter with
    | none => rfl
    | some condition =>
        have hwritten := hchild (.filter condition)
          (Select.filter_mem_children hcondition)
        simp only [Node.pieces] at hwritten
        rw [Condition.wherePieces, Condition.wherePieces, hwritten]
  have horder : OrderField.orderByPieces other select.order =
      OrderField.orderByPieces dialect select.order := by
    cases hfields : select.order with
    | nil => rfl
    | cons field fields =>
        have hwritten := hchild (.order select.order)
          (by simp [Node.children, hfields])
        simp only [Node.pieces, hfields, List.map_cons] at hwritten
        rw [OrderField.orderByPieces, OrderField.orderByPieces,
          OrderField.listPieces_eq_map, OrderField.listPieces_eq_map, hwritten]
  have htail := Select.tail_eq_of_pagedAlike hpaging
    (OrderField.orderByPieces dialect select.order)
    OrderField.eq_nil_of_orderByPieces
  simp only [Node.pieces] at hitems htables
  obtain ⟨distinct, items, tables, joins, filter, order, limit, offset⟩ :=
    select
  rw [Select.pieces, Select.pieces, Expr.listPieces_eq_map,
    Expr.listPieces_eq_map, hitems, htables, hjoins, hfilter, horder,
    htail]

/-- Where two dialects page alike, they differ in the word before an alias
alone. -/
theorem Node.pieces_eq_of_pagedAlike
    (halias : other.aliasKeyword = dialect.aliasKeyword) (node : Node) :
    (∀ select, node.Reaches (.select select) →
      select.PagedAlike other dialect) →
        node.pieces other = node.pieces dialect := by
  induction node using Node.inductionOn with
  | step node ih =>
      intro h
      have hchild : ∀ child ∈ node.children,
          child.pieces other = child.pieces dialect := by
        intro child hmem
        exact ih child hmem fun select hreached =>
          h select (.child hmem hreached)
      cases node with
      | select select =>
          exact Select.pieces_eq_of_pagedAlike (h select (.self _)) hchild
      | items items =>
          have hitems := List.map_congr_left fun item hitem =>
            hchild (.expr item) (List.mem_map_of_mem hitem)
          simp only [pieces] at hitems ⊢
          rw [hitems]
      | tables tables =>
          have htables : Table.pieces other = Table.pieces dialect :=
            funext (Table.pieces_eq_of_aliasKeyword halias)
          rw [pieces, pieces, htables]
      | join join =>
          obtain ⟨kind, table, on⟩ := join
          have hon := hchild (.condition on)
            (List.mem_cons_of_mem _ List.mem_cons_self)
          simp only [pieces] at hon ⊢
          rw [Join.pieces, Join.pieces, hon,
            table.pieces_eq_of_aliasKeyword halias]
      | filter condition =>
          exact hchild (.condition condition) List.mem_cons_self
      | order fields =>
          have hfields := List.map_congr_left fun field hfield =>
            hchild (.orderField field) (List.mem_map_of_mem hfield)
          simp only [pieces] at hfields ⊢
          rw [hfields]
      | orderField field =>
          obtain ⟨expr, direction, nulls⟩ := field
          have hexpr := hchild (.expr expr) List.mem_cons_self
          simp only [pieces] at hexpr ⊢
          unfold OrderField.pieces
          rw [hexpr]
      | table table => exact table.pieces_eq_of_aliasKeyword halias
      | expr expr => exact Expr.pieces_eq_of_children hchild
      | condition condition => exact Condition.pieces_eq_of_children hchild

end Layout

/-! ## Names -/

/-- The name of a table, an alias or a column that is written somewhere in the
node.  The name of a table that goes by an alias counts where the table is
imported. -/
def Node.Names (node : Node) (name : Identifier) : Prop :=
  .name name ∈ node.labels

theorem Node.names_of_mem_pieces {dialect : Dialect} {node : Node}
    {name : Identifier} (h : .name name ∈ node.pieces dialect) :
    node.Names name := by
  rw [Names, ← node.labels_pieces dialect, List.mem_flatMap]
  exact ⟨.name name, h, List.mem_singleton_self _⟩

namespace Style

variable {style other : Style}

theorem write_eq_of_names {pieces : List Piece}
    (h : ∀ name, .name name ∈ pieces →
      style.identifier name = other.identifier name) :
    style.write pieces = other.write pieces := by
  have hpieces : pieces.map style.piece = pieces.map other.piece := by
    apply List.map_congr_left
    intro piece hmem
    cases piece with
    | name name => exact h name hmem
    | text text | literal value => rfl
  rw [write, write, hpieces]

/-- All that a style has a say in for the text of a node. -/
structure AgreesOn (style other : Style) (node : Node) : Prop where
  names : ∀ name, node.Names name →
    style.identifier name = other.identifier name
  aliasKeyword : style.dialect.aliasKeyword = other.dialect.aliasKeyword
  paging : ∀ select, node.Reaches (.select select) →
    select.PagedAlike style.dialect other.dialect

theorem AgreesOn.write_eq {node : Node} (h : style.AgreesOn other node) :
    style.write (node.pieces style.dialect) =
      other.write (node.pieces other.dialect) := by
  rw [Node.pieces_eq_of_pagedAlike h.aliasKeyword node h.paging]
  exact write_eq_of_names fun name hmem =>
    h.names name (Node.names_of_mem_pieces hmem)

theorem AgreesOn.select_eq {select : Select}
    (h : style.AgreesOn other (.select select)) :
    style.select select = other.select select :=
  h.write_eq

end Style

end SqlStatement
