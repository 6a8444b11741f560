import SqlStatement.Proofs.DeskRun
import SqlStatement.Proofs.Obtainable
import SqlStatement.Proofs.Wording
import Mathlib.Tactic

/-!
# What the writers write

Each writer makes of its node the words that the layout has for it, provided
that the writers it hands the children to do the same.  By induction over the
nodes they all do, and none of them ever fails.

The one failure that depends on the texts, a statement whose select list came
out empty, is excluded since a statement that was built is valid.
-/

namespace SqlStatement

/-! ## No item is empty -/

theorem Decimal.positional_ne_empty (decimal : Decimal) :
    decimal.positional ≠ "" := by
  have hdigits : Nat.toDigits 10 decimal.coefficient ≠ [] :=
    Nat.toDigits_ne_nil
  unfold positional
  simp only
  split
  · simp [hdigits]
  · split
    · simp
    · simp

theorem Binary64.text_ne_empty (x : Binary64) : x.text ≠ "" := by
  unfold text
  split
  · decide
  · simp only
    have hmagnitude :
        (if x.isFinite then x.shortest.positional else "inf") ≠ "" := by
      split
      · exact x.shortest.positional_ne_empty
      · decide
    simp [hmagnitude]

theorem Literal.sql_ne_empty (value : Literal) : value.sql ≠ "" := by
  cases value with
  | integer value =>
      change toString value.toInt ≠ ""
      cases value.toInt with
      | ofNat n => exact Nat.repr_ne_empty
      | negSucc n => simp [toString, Int.repr]
  | float value => exact value.text_ne_empty
  | string value => simp [sql]
  | boolean value => cases value <;> decide
  | null => decide

theorem Expr.wording_ne_empty (style : Style) {expr : Expr}
    (h : expr.WellShaped) : style.expr expr ≠ "" := by
  rw [Style.expr_eq]
  cases expr with
  | column column =>
      simp [Style.exprFromParts, Style.column, Column.pieces, Style.piece]
  | raw text =>
      rintro rfl
      cases h
  | asterisk table => cases table <;> simp [Style.exprFromParts]
  | subSelect select => simp [Style.exprFromParts]
  | literal value => exact value.sql_ne_empty
  | bind name => cases name <;> simp [Style.exprFromParts]
  | function name args => simp [Style.exprFromParts]

theorem intercalate_ne_empty (separator : String) {parts : List String}
    (hne : parts ≠ []) (hparts : ∀ part ∈ parts, part ≠ "") :
    separator.intercalate parts ≠ "" := by
  cases parts with
  | nil => exact absurd rfl hne
  | cons part parts =>
      have hpart := hparts part List.mem_cons_self
      cases parts with
      | nil => simpa using hpart
      | cons next rest =>
          rw [String.intercalate_cons_cons]
          simp [hpart]

theorem Select.items_wording_ne_empty (style : Style) {select : Select}
    (h : select.Valid) :
    ", ".intercalate (select.items.map style.expr) ≠ "" := by
  apply intercalate_ne_empty
  · simpa using h.items_ne_nil
  · intro part hmem
    obtain ⟨item, hitem, rfl⟩ := List.mem_map.mp hmem
    have hscope : item ∈ select.scope := by
      simp only [Select.scope, List.mem_append, List.mem_flatMap]
      exact .inl (.inl (.inl ⟨item, hitem, item.mem_scope_self⟩))
    exact item.wording_ne_empty style (h.scope_wellShaped item hscope)

open Writer

/-- What the writer of a node makes of it.  A field of an ORDER BY has no
writer of its own and adds to the texts of the whole ORDER BY, and a table is
written by the one who meets it. -/
def Node.Written (style : Style) : Node → Prop
  | .select s =>
      (start (.select .empty)).Writes style (.select s) (style.select s)
  | .items es =>
      (start (.items [])).Writes style (.items es)
        (", ".intercalate (es.map style.expr))
  | .tables ts =>
      (start (.tables [])).Writes style (.tables ts)
        ("FROM " ++ ", ".intercalate (ts.map style.table))
  | .join j =>
      (start (.join .inner "" none)).Writes style (.join j) (style.join j)
  | .filter c =>
      (start .filter).Writes style (.filter c)
        ("WHERE " ++ style.condition c)
  | .order fs =>
      (start (.order none [])).Writes style (.order fs)
        ("ORDER BY " ++ ", ".intercalate (fs.map style.orderField))
  | .orderField f =>
      ∀ parts : List String,
        (start (.order none parts)).Takes style [.orderField f]
          (start (.order none (parts ++ [style.orderField f])))
  | .table _ => True
  | .expr e => (start (.expr false)).Writes style (.expr e) (style.expr e)
  | .condition c =>
      (start .condition).Writes style (.condition c) (style.condition c)

namespace Writer

variable {style : Style}

/-! ## Expressions -/

theorem function_writes {name : String} {args : List Expr}
    (hargs : ∀ arg ∈ args, (Node.expr arg).Written style) :
    (start (.function "" [])).Writes style (.expr (.function name args))
      (name ++ "(" ++ ", ".intercalate (args.map style.expr) ++ ")") := by
  have hchildren :
      (start (.function name [])).Takes style (args.map Node.expr)
        (start (.function name (args.map style.expr))) := by
    apply Takes.gather fun parts => start (.function name parts)
    intro arg harg parts
    exact .of_delegate rfl (hargs arg harg) rfl
  exact .of_retain rfl hchildren rfl rfl

theorem expr_written {expr : Expr}
    (hchild : ∀ child ∈ (Node.expr expr).children, child.Written style) :
    (Node.expr expr).Written style := by
  rw [Node.Written, Style.expr_eq]
  cases expr with
  | function name args =>
      have hargs : ∀ arg ∈ args, (Node.expr arg).Written style := by
        intro arg harg
        exact hchild (.expr arg) (List.mem_map_of_mem harg)
      exact .of_delegate rfl (function_writes hargs) rfl rfl
  | subSelect select =>
      have hselect := hchild (.select select) List.mem_cons_self
      exact .of_retain rfl (.of_delegate rfl hselect rfl) rfl rfl
  | asterisk table => cases table <;> exact .of_retain rfl .nil rfl rfl
  | bind name => cases name <;> exact .of_retain rfl .nil rfl rfl
  | column column => exact .of_retain rfl .nil rfl rfl
  | raw text => exact .of_retain rfl .nil rfl rfl
  | literal value => exact .of_retain rfl .nil rfl rfl

/-! ## Conditions -/

theorem operands_takes {left right : Expr} {separator : String}
    (hleft : (Node.expr left).Written style)
    (hright : (Node.expr right).Written style) :
    (start (.operands separator "" 0)).Takes style [.expr left, .expr right]
      (start (.operands separator
        (style.expr left ++ separator ++ style.expr right) 2)) := by
  -- The separator is put in when the second operand arrives.
  refine .cons (.of_delegate rfl hleft rfl) (.of_delegate rfl hright ?_)
  simp [receive, start]

theorem comparison_writes {left right : Expr} {comparator : Comparator}
    (hleft : (Node.expr left).Written style)
    (hright : (Node.expr right).Written style) :
    (start (.operands (" " ++ comparator.sql ++ " ") "" 0)).Writes style
      (.condition (.comparison left comparator right))
      (style.expr left ++ " " ++ comparator.sql ++ " " ++
        style.expr right) := by
  refine .of_retain rfl (operands_takes hleft hright) rfl ?_
  simp [String.append_assoc]

theorem like_writes {left right : Expr}
    (hleft : (Node.expr left).Written style)
    (hright : (Node.expr right).Written style) :
    (start (.operands " LIKE " "" 0)).Writes style
      (.condition (.like left right))
      (style.expr left ++ " LIKE " ++ style.expr right) :=
  .of_retain rfl (operands_takes hleft hright) rfl rfl

theorem inList_writes {left : Expr} {args : List Expr} {negated : Bool}
    (hoperands : ∀ operand ∈ left :: args,
      (Node.expr operand).Written style) :
    (start (.inList false false [])).Writes style
      (.condition (.inList left args negated))
      (style.expr left ++ (if negated then " NOT IN " else " IN ") ++
        style.arguments args) := by
  have hchildren :
      (start (.inList negated (isLoneSubSelect args) [])).Takes style
        ((left :: args).map Node.expr)
        (start (.inList negated (isLoneSubSelect args)
          ((left :: args).map style.expr))) := by
    apply Takes.gather fun parts =>
      start (.inList negated (isLoneSubSelect args) parts)
    intro operand hmem parts
    exact .of_delegate rfl (hoperands operand hmem) rfl
  refine .of_retain rfl hchildren rfl ?_
  rw [style.arguments_eq]
  cases negated <;> simp [String.append_assoc]

theorem isNull_writes {operand : Expr} {negated : Bool}
    (h : (Node.expr operand).Written style) :
    (start (.isNull false none)).Writes style
      (.condition (.isNull operand negated))
      (style.expr operand ++
        if negated then " IS NOT NULL" else " IS NULL") := by
  refine .of_retain rfl (.of_delegate rfl h rfl) rfl ?_
  cases negated <;> simp [String.append_assoc]

theorem nested_writes {inner : Condition}
    (h : (Node.condition inner).Written style) :
    (start .nested).Writes style (.condition (.nested inner))
      ("(" ++ style.condition inner ++ ")") :=
  .of_retain rfl (.of_delegate rfl h rfl) rfl rfl

theorem wraps_and (condition : Condition) :
    wraps (some .and) (.condition condition) = condition.isOr := by
  cases condition <;> rfl

theorem wraps_or (condition : Condition) :
    wraps (some .or) (.condition condition) = condition.isAnd := by
  cases condition <;> rfl

/-- A conjunction wraps a part or not as it decided when it met the part. -/
theorem conjunction_takes {separator : String} {kind : Option Conjunction}
    {parts : List String} {part : Condition}
    (h : (Node.condition part).Written style) :
    (start (.conjunction separator kind false parts)).Takes style
      [.condition part]
      (start (.conjunction separator kind false
        (parts ++ [style.grouped (wraps kind (.condition part)) part]))) :=
  .of_delegate rfl h rfl

theorem conjunction_writes {separator : String} {kind : Conjunction}
    {node : Node} {left right : Condition}
    (hbegin : (start (.conjunction separator none false [])).begin style node =
      .ok (start (.conjunction separator (some kind) false []), .retain))
    (hchildren : node.children = [.condition left, .condition right])
    (hleft : (Node.condition left).Written style)
    (hright : (Node.condition right).Written style) :
    (start (.conjunction separator none false [])).Writes style node
      (style.grouped (wraps (some kind) (.condition left)) left ++ separator ++
        style.grouped (wraps (some kind) (.condition right)) right) := by
  have htakes :
      (start (.conjunction separator (some kind) false [])).Takes style
        node.children
        (start (.conjunction separator (some kind) false
          [style.grouped (wraps (some kind) (.condition left)) left,
            style.grouped (wraps (some kind) (.condition right)) right])) := by
    rw [hchildren]
    exact .cons (conjunction_takes hleft) (conjunction_takes hright)
  exact .of_retain hbegin htakes rfl
    (congrArg some String.intercalate_cons_cons)

theorem and_writes {left right : Condition}
    (hleft : (Node.condition left).Written style)
    (hright : (Node.condition right).Written style) :
    (start (.conjunction " AND " none false [])).Writes style
      (.condition (.and left right))
      (style.grouped left.isOr left ++ " AND " ++
        style.grouped right.isOr right) := by
  rw [← wraps_and, ← wraps_and]
  exact conjunction_writes rfl rfl hleft hright

theorem or_writes {left right : Condition}
    (hleft : (Node.condition left).Written style)
    (hright : (Node.condition right).Written style) :
    (start (.conjunction " OR " none false [])).Writes style
      (.condition (.or left right))
      (style.grouped left.isAnd left ++ " OR " ++
        style.grouped right.isAnd right) := by
  rw [← wraps_or, ← wraps_or]
  exact conjunction_writes rfl rfl hleft hright

theorem not_writes {inner : Condition}
    (h : (Node.condition inner).Written style) :
    (start (.not false)).Writes style (.condition (.not inner))
      ("NOT " ++ style.grouped inner.needsParenthesesAfterNot inner) :=
  .of_retain rfl (.of_delegate rfl h rfl) rfl rfl

theorem condition_written {condition : Condition}
    (hchild : ∀ child ∈ (Node.condition condition).children,
      child.Written style) :
    (Node.condition condition).Written style := by
  rw [Node.Written, Style.condition_eq]
  cases condition with
  | comparison left comparator right =>
      have hleft := hchild (.expr left) List.mem_cons_self
      have hright := hchild (.expr right) (Condition.right_mem_children rfl)
      exact .of_delegate rfl (comparison_writes hleft hright) rfl rfl
  | like left right =>
      have hleft := hchild (.expr left) List.mem_cons_self
      have hright := hchild (.expr right) (Condition.right_mem_children rfl)
      exact .of_delegate rfl (like_writes hleft hright) rfl rfl
  | inList left args negated =>
      have hoperands : ∀ operand ∈ left :: args,
          (Node.expr operand).Written style := by
        intro operand hmem
        have hnode : Node.expr operand ∈ (left :: args).map Node.expr :=
          List.mem_map_of_mem hmem
        exact hchild (.expr operand) hnode
      exact .of_delegate rfl (inList_writes hoperands) rfl rfl
  | isNull operand negated =>
      have hoperand := hchild (.expr operand) List.mem_cons_self
      exact .of_delegate rfl (isNull_writes hoperand) rfl rfl
  | nested inner =>
      have hinner := hchild (.condition inner) List.mem_cons_self
      exact .of_delegate rfl (nested_writes hinner) rfl rfl
  | raw text => exact .of_retain rfl .nil rfl rfl
  | and left right =>
      have hleft := hchild (.condition left) List.mem_cons_self
      have hright := hchild (.condition right)
        (Condition.right_mem_children rfl)
      exact .of_delegate rfl (and_writes hleft hright) rfl rfl
  | or left right =>
      have hleft := hchild (.condition left) List.mem_cons_self
      have hright := hchild (.condition right)
        (Condition.right_mem_children rfl)
      exact .of_delegate rfl (or_writes hleft hright) rfl rfl
  | not inner =>
      have hinner := hchild (.condition inner) List.mem_cons_self
      exact .of_delegate rfl (not_writes hinner) rfl rfl

/-! ## Clauses -/

theorem items_written {items : List Expr}
    (hchild : ∀ child ∈ (Node.items items).children, child.Written style) :
    (Node.items items).Written style := by
  have hchildren :
      (start (.items [])).Takes style (items.map Node.expr)
        (start (.items (items.map style.expr))) := by
    apply Takes.gather fun parts => start (.items parts)
    intro item hitem parts
    have hwritten := hchild (.expr item) (List.mem_map_of_mem hitem)
    exact .of_delegate rfl hwritten rfl
  exact .of_retain rfl hchildren rfl rfl

theorem tables_written (tables : List Table) :
    (Node.tables tables).Written style := by
  have hchildren :
      (start (.tables [])).Takes style (tables.map Node.table)
        (start (.tables (tables.map style.table))) := by
    apply Takes.gather fun parts => start (.tables parts)
    intro table _ parts
    exact .of_retain rfl .nil
  exact .of_retain rfl hchildren rfl rfl

theorem join_written {join : Join}
    (hchild : ∀ child ∈ (Node.join join).children, child.Written style) :
    (Node.join join).Written style := by
  have hon := hchild (.condition join.on)
    (List.mem_cons_of_mem _ List.mem_cons_self)
  have htable :
      (start (.join join.kind "" none)).Takes style [.table join.table]
        (start (.join join.kind (style.table join.table) none)) :=
    .of_retain rfl .nil
  exact .of_retain rfl (htable.cons (.of_delegate rfl hon rfl)) rfl rfl

theorem filter_written {condition : Condition}
    (hchild : ∀ child ∈ (Node.filter condition).children,
      child.Written style) :
    (Node.filter condition).Written style := by
  have hcondition := hchild (.condition condition) List.mem_cons_self
  exact .of_retain rfl (.of_delegate rfl hcondition rfl) rfl rfl

theorem withField_eq (field : OrderField) :
    withField (style.expr field.expr) (some field) =
      style.orderField field := by
  obtain ⟨expr, direction, nulls⟩ := field
  cases direction <;> cases nulls <;>
    simp [withField, Style.orderField, String.append_assoc]

theorem orderField_written {field : OrderField}
    (hchild : ∀ child ∈ (Node.orderField field).children,
      child.Written style) :
    (Node.orderField field).Written style := by
  intro parts
  have hexpr := hchild (.expr field.expr) List.mem_cons_self
  have hchildren :
      (start (.order (some field) parts)).Takes style [.expr field.expr]
        (start (.order none (parts ++ [style.orderField field]))) := by
    refine .of_delegate rfl hexpr ?_
    rw [← withField_eq]
    rfl
  exact .of_retain rfl hchildren

theorem order_written {fields : List OrderField}
    (hchild : ∀ child ∈ (Node.order fields).children, child.Written style) :
    (Node.order fields).Written style := by
  have hchildren :
      (start (.order none [])).Takes style (fields.map Node.orderField)
        (start (.order none (fields.map style.orderField))) := by
    apply Takes.gather fun parts => start (.order none parts)
    intro field hfield parts
    exact hchild (.orderField field) (List.mem_map_of_mem hfield) parts
  exact .of_retain rfl hchildren rfl rfl

/-! ## Statements -/

/-- The clauses of a statement as far as they were received. -/
def stage (select : Select) (items tables : String) (joins : List String)
    (filter order : Option String) : Clauses :=
  ⟨select.distinct, select.limit, select.offset, none, items, tables, joins,
    filter, order⟩

def received (style : Style) (select : Select) : Clauses :=
  stage select (", ".intercalate (select.items.map style.expr))
    ("FROM " ++ ", ".intercalate (select.tables.map style.table))
    (select.joins.map style.join)
    (select.filter.map fun condition => "WHERE " ++ style.condition condition)
    (style.orderBy? select.order)

theorem foldl_parts (parts : List String) (sql : String) :
    parts.foldl (fun sql part => sql ++ " " ++ part) sql =
      sql ++ String.join (parts.map fun part => " " ++ part) := by
  induction parts generalizing sql with
  | nil => simp
  | cons part parts ih =>
      rw [List.foldl_cons, ih, List.map_cons, String.join_cons]
      simp only [String.append_assoc]

theorem sections_received (select : Select) :
    (received style select).sections style.dialect =
      style.tail (style.orderBy? select.order) select.limit select.offset := by
  unfold Clauses.sections Style.tail received stage
  cases style.dialect.position <;> cases style.orderBy? select.order <;>
    cases style.dialect.paging select.limit select.offset <;>
    cases style.dialect.pagingOrder <;> rfl

theorem received_text (select : Select) :
    (received style select).text style.dialect = style.select select := by
  have hfilter :
      ((received style select).filter.toList.map fun part => " " ++ part) =
        select.filter.toList.map fun condition =>
          " WHERE " ++ style.condition condition := by
    cases hcase : select.filter with
    | none => simp [received, stage, hcase]
    | some condition => simp [received, stage, hcase, ← String.append_assoc]
  have hjoins :
      ((received style select).joins.map fun part => " " ++ part) =
        select.joins.map fun join => " " ++ style.join join := by
    rw [received, stage, List.map_map]
    rfl
  have hfrom (rest : String) : " " ++ ("FROM " ++ rest) = " FROM " ++ rest := by
    rw [← String.append_assoc]
    rfl
  rw [style.select_eq, Clauses.text, foldl_parts, List.map_append,
    List.map_append, String.join_append, String.join_append, hfilter, hjoins,
    sections_received]
  simp only [received, stage, Style.selectFromParts, String.append_assoc,
    hfrom]
  rfl

theorem joins_taken {select : Select} {items tables : String}
    {joins : List Join}
    (hjoins : ∀ join ∈ joins, (Node.join join).Written style) :
    (start (.select (stage select items tables [] none none))).Takes style
      (joins.map Node.join)
      (start (.select (stage select items tables (joins.map style.join) none
        none))) := by
  apply Takes.gather fun parts =>
    start (.select (stage select items tables parts none none))
  intro join hjoin parts
  exact .of_delegate rfl (hjoins join hjoin) rfl

theorem filter_taken {select : Select} {items tables : String}
    {joins : List String} {filter : Option Condition}
    (hfilter : ∀ condition ∈ filter, (Node.filter condition).Written style) :
    (start (.select (stage select items tables joins none none))).Takes style
      (filter.map Node.filter).toList
      (start (.select (stage select items tables joins
        (filter.map fun condition => "WHERE " ++ style.condition condition)
        none))) := by
  cases filter with
  | none => exact .nil
  | some condition => exact .of_delegate rfl (hfilter condition rfl) rfl

theorem order_taken {select : Select} {items tables : String}
    {joins : List String} {filter : Option String} {order : List OrderField}
    (horder : order ≠ [] → (Node.order order).Written style) :
    (start (.select (stage select items tables joins filter none))).Takes
      style (if order.isEmpty then [] else [.order order])
      (start (.select (stage select items tables joins filter
        (style.orderBy? order)))) := by
  cases order with
  | nil => exact .nil
  | cons field fields =>
      exact .of_delegate rfl (horder (List.cons_ne_nil field fields)) rfl

theorem clauses_taken {select : Select}
    (hchild : ∀ child ∈ (Node.select select).children, child.Written style) :
    (start (.select (stage select "" "" [] none none))).Takes style
      (Node.select select).children
      (start (.select (received style select))) := by
  have hitems := hchild (.items select.items) List.mem_cons_self
  have htables := hchild (.tables select.tables)
    (List.mem_cons_of_mem _ List.mem_cons_self)
  have hjoins : ∀ join ∈ select.joins, (Node.join join).Written style :=
    fun join hjoin => hchild _ (Select.join_mem_children hjoin)
  have hfilter : ∀ condition ∈ select.filter,
      (Node.filter condition).Written style :=
    fun condition hmem => hchild _ (Select.filter_mem_children hmem)
  have horder : select.order ≠ [] →
      (Node.order select.order).Written style := by
    intro hne
    apply hchild
    simp [Node.children, hne]
  have hstart :
      (start (.select (stage select "" "" [] none none))).Takes style
        (.items select.items :: .tables select.tables ::
          select.joins.map Node.join) _ :=
    .cons (.of_delegate rfl hitems rfl)
      (.cons (.of_delegate rfl htables rfl) (joins_taken hjoins))
  exact (hstart.append (filter_taken hfilter)).append (order_taken horder)

theorem select_written {select : Select} (hvalid : select.Valid)
    (hchild : ∀ child ∈ (Node.select select).children, child.Written style) :
    (Node.select select).Written style := by
  -- Without these two the writer would refuse to finish.
  have hitems : (received style select).items.isEmpty = false := by
    simpa [received, stage] using select.items_wording_ne_empty style hvalid
  have htables : (received style select).tables.isEmpty = false := by
    simp [received, stage]
  have hfinish : (start (.select (received style select))).finish style
      (.select select) =
        .ok ⟨.select { received style select with order := none },
          some ((received style select).text style.dialect)⟩ := by
    simp [finish, start, hitems, htables]
  exact .of_retain rfl (clauses_taken hchild) hfinish
    (congrArg some (received_text select))

end Writer

end SqlStatement
