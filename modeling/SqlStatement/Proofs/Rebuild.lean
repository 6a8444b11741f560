import SqlStatement.Proofs.Obtainable
import SqlStatement.Tree.Equality
import Mathlib.Tactic

/-!
# Building a statement again from its parts

The parts of a statement, given to a new draft in the order in which they are
written, make the same draft again.  The result equals the statement, which is
not so for every tree: one that holds a float that is no number does not equal
itself, and it is the shape check that keeps those out.
-/

namespace SqlStatement

/-- The steps which give a draft all parts of a statement but its select list
and its FROM. -/
def Select.steps (select : Select) : List Draft.Step :=
  (if select.distinct then [.distinct] else []) ++
    select.joins.map (fun join => .join join.kind join.table join.on) ++
    select.filter.toList.map .filter ++ [.order select.order] ++
    select.limit.toList.map .limit ++ select.offset.toList.map .offset

namespace Draft

theorem select_addAll_steps (select : Select) :
    ((start select.items select.tables).addAll select.steps).select =
      select := by
  obtain ⟨distinct, items, tables, joins, filter, order, limit, offset⟩ :=
    select
  have hjoins : joins.filterMap (fun join =>
      (Step.join join.kind join.table join.on).join?) = joins := by
    refine (List.filterMap_congr fun join _ => ?_).trans List.filterMap_some
    cases join
    rfl
  rw [addAll_eq]
  cases distinct <;> cases filter <;> cases limit <;> cases offset <;>
    simp [Draft.select, Select.steps, List.filterMap_cons, List.foldl_map,
      hjoins] <;>
    simp [start_eq, Step.isDistinct, Step.join?, Step.newFilter,
      Step.orderFields, Step.limit?, Step.offset?]

theorem build_addAll_steps {select : Select} (h : select.check = .ok ()) :
    ((start select.items select.tables).addAll select.steps).build =
      .ok select := by
  rw [build_eq_ok_iff, select_addAll_steps]
  exact ⟨h, rfl⟩

theorem inputSubSelects_steps (select : Select) :
    inputSubSelects select.items select.steps = select.subSelects := by
  obtain ⟨distinct, items, tables, joins, filter, order, limit, offset⟩ :=
    select
  rw [Select.subSelects_eq]
  cases distinct <;> cases filter <;> cases limit <;> cases offset <;>
    simp [inputSubSelects, Select.steps, Step.subSelects, List.flatMap_map,
      Function.comp_def]

end Draft

/-! ## Equality with itself -/

theorem Binary64.beq_self {value : Binary64} (h : value.isFinite = true) :
    (value == value) = true := by
  change Binary64.beq value value = true
  simp_all [Binary64.beq, isFinite, isNaN]

theorem Literal.beq_self {value : Literal}
    (h : (Expr.literal value).WellShaped) : (value == value) = true := by
  change Literal.beq value value = true
  cases value with
  | float value => exact Binary64.beq_self h
  | _ => simp [Literal.beq]

/-- What an expression has to be for the trees in whose scope it stands to
equal themselves. -/
def Expr.SelfEqual (expr : Expr) : Prop :=
  expr.WellShaped ∧
    ∀ select, expr = .subSelect select → Select.beq select select = true

theorem list_beq_self [BEq α] {as : List α}
    (h : ∀ a ∈ as, (a == a) = true) : (as == as) = true := by
  induction as with
  | nil => rfl
  | cons a as ih =>
      rw [List.forall_mem_cons] at h
      rw [List.cons_beq_cons, h.1, ih h.2]
      rfl

theorem Expr.beqList_self {exprs : List Expr}
    (h : ∀ expr ∈ exprs, Expr.beq expr expr = true) :
    Expr.beqList exprs exprs = true :=
  (Expr.beqList_eq_beq exprs exprs).trans (list_beq_self h)

theorem Expr.beq_self (expr : Expr) :
    (∀ inner ∈ expr.scope, inner.SelfEqual) → Expr.beq expr expr = true := by
  induction expr using Expr.inductionOn with
  | subSelect select =>
      intro h
      rw [Expr.beq]
      exact (h _ (List.mem_singleton_self _)).2 select rfl
  | literal value =>
      intro h
      rw [Expr.beq]
      exact Literal.beq_self (h _ (List.mem_singleton_self _)).1
  | function name args ih =>
      intro h
      rw [Expr.scope, Expr.listScope_eq_flatMap, List.forall_mem_cons] at h
      have hargs : ∀ arg ∈ args, Expr.beq arg arg = true := by
        intro arg harg
        apply ih arg harg
        intro inner hinner
        exact h.2 inner (List.mem_flatMap_of_mem harg hinner)
      simp [Expr.beq, Expr.beqList_self hargs]
  | _ =>
      intro _
      simp [Expr.beq]

theorem Condition.beq_self (condition : Condition) :
    (∀ inner ∈ condition.scope, inner.SelfEqual) →
      Condition.beq condition condition = true := by
  induction condition using Condition.inductionOn with
  | comparison left comparator right | like left right =>
      intro h
      rw [Condition.scope, List.forall_mem_append] at h
      simp [Condition.beq, left.beq_self h.1, right.beq_self h.2]
  | inList left args negated =>
      intro h
      rw [Condition.scope, List.forall_mem_append] at h
      have hargs : ∀ arg ∈ args, Expr.beq arg arg = true := by
        intro arg harg
        apply arg.beq_self
        intro inner hinner
        exact h.2 inner (List.mem_flatMap_of_mem harg hinner)
      simp [Condition.beq, left.beq_self h.1, Expr.beqList_self hargs]
  | isNull operand negated =>
      intro h
      simp [Condition.beq, operand.beq_self h]
  | nested inner ih | not inner ih =>
      intro h
      rw [Condition.beq]
      exact ih h
  | raw text =>
      intro _
      simp [Condition.beq]
  | and left right ihleft ihright | or left right ihleft ihright =>
      intro h
      rw [Condition.scope, List.forall_mem_append] at h
      simp [Condition.beq, ihleft h.1, ihright h.2]

theorem Join.beq_self {join : Join}
    (h : Condition.beq join.on join.on = true) : Join.beq join join = true := by
  obtain ⟨kind, table, on⟩ := join
  simp [Join.beq, h]

theorem OrderField.beq_self {field : OrderField}
    (h : Expr.beq field.expr field.expr = true) :
    OrderField.beq field field = true := by
  obtain ⟨expr, direction, nulls⟩ := field
  simp [OrderField.beq, h]

theorem Condition.beqOption_self {filter : Option Condition}
    (h : ∀ condition ∈ filter.toList,
      Condition.beq condition condition = true) :
    Condition.beqOption filter filter = true := by
  cases filter with
  | none => rw [Condition.beqOption]
  | some condition =>
      rw [Condition.beqOption]
      exact h condition (List.mem_singleton_self condition)

theorem Select.beq_self (select : Select)
    (h : ∀ inner ∈ select.scope, inner.SelfEqual) :
    Select.beq select select = true := by
  obtain ⟨distinct, items, tables, joins, filter, order, limit, offset⟩ :=
    select
  simp only [scope, List.forall_mem_append] at h
  obtain ⟨⟨⟨hitems, hjoins⟩, hfilter⟩, horder⟩ := h
  have hitems : Expr.beqList items items = true := by
    apply Expr.beqList_self
    intro item hmem
    apply item.beq_self
    exact fun inner hinner =>
      hitems inner (List.mem_flatMap_of_mem hmem hinner)
  have hjoins : Join.beqList joins joins = true := by
    rw [Join.beqList_eq_beq]
    refine list_beq_self fun join hmem => Join.beq_self ?_
    apply join.on.beq_self
    exact fun inner hinner =>
      hjoins inner (List.mem_flatMap_of_mem hmem hinner)
  have hfilter : Condition.beqOption filter filter = true := by
    apply Condition.beqOption_self
    intro condition hmem
    apply condition.beq_self
    exact fun inner hinner =>
      hfilter inner (List.mem_flatMap_of_mem hmem hinner)
  have horder : OrderField.beqList order order = true := by
    rw [OrderField.beqList_eq_beq]
    refine list_beq_self fun field hmem => OrderField.beq_self ?_
    apply field.expr.beq_self
    exact fun inner hinner =>
      horder inner (List.mem_flatMap_of_mem hmem hinner)
  simp [Select.beq, hitems, hjoins, hfilter, horder]

theorem Select.Obtainable.beq_self {select : Select} (h : select.Obtainable) :
    Select.beq select select = true := by
  induction h with
  | @build early items tables steps select hinputs hbuild ih =>
      have hvalid := (Select.Obtainable.build hinputs hbuild).valid
      apply select.beq_self
      intro inner hinner
      refine ⟨hvalid.scope_wellShaped inner hinner, ?_⟩
      rintro sub rfl
      apply ih
      apply Draft.mem_inputSubSelects_of_build hbuild
      exact List.mem_filterMap.mpr ⟨_, hinner, rfl⟩

/-- Each level of a statement that can be obtained is valid, and its parts
build it again. -/
theorem obtainable_valid_and_rebuilt (select : Select)
    (h : select.Obtainable) :
    (∀ inner : Select, inner.Within select → inner.Valid) ∧
      ∃ again, ((Draft.start select.items select.tables).addAll
          select.steps).build = .ok again ∧
        (again == select) = true := by
  constructor
  · intro inner hwithin
    exact (h.of_within hwithin).valid
  · exact ⟨select, Draft.build_addAll_steps h.check_eq_ok, h.beq_self⟩

theorem Select.obtainable_of_check {select : Select}
    (hsubs : ∀ sub ∈ select.subSelects, sub.Obtainable)
    (hcheck : select.check = .ok ()) : select.Obtainable := by
  refine .build ?_ (Draft.build_addAll_steps hcheck)
  rw [Draft.inputSubSelects_steps]
  exact hsubs

namespace Draft

def orders : Table :=
  ⟨⟨"orders", false, by decide⟩, some ⟨"o", false, by decide⟩⟩

def users : Table :=
  ⟨⟨"users", true, by decide⟩, none⟩

def userId : Column :=
  ⟨users, ⟨"id", false, by decide⟩⟩

def buyer : Identifier :=
  ⟨"buyer", false, by decide⟩

def isBuyer : Condition :=
  .comparison (.column userId) .eq (.column ⟨orders, buyer⟩)

/-- Who ordered something. -/
def buyerIds : Draft :=
  start [.column ⟨orders, buyer⟩] [orders]

def buyers : Draft :=
  (start [.asterisk (some users)] [users]).addAll
    [.filter (.inList (.column userId) [.subSelect buyerIds.select] false),
      .limit 10]

/-- The same, with every clause that there is. -/
def pickedBuyers : Draft :=
  (startAfter 1 [.asterisk (some users)] [users]).addAll
    [.join .leftOuter orders isBuyer,
      .filter (.inList (.column userId) [.subSelect buyerIds.select] false),
      .order [⟨.column ⟨orders, buyer⟩, some .desc, some .last⟩],
      .limit 10, .offset 3]

theorem buyerIds_obtainable : buyerIds.select.Obtainable := by
  have hcheck : buyerIds.select.check = .ok () := by cbv
  exact Select.obtainable_of_check (List.forall_mem_nil _) hcheck

theorem buyers_obtainable : buyers.select.Obtainable := by
  have hcheck : buyers.select.check = .ok () := by cbv
  exact Select.obtainable_of_check
    (List.forall_mem_singleton.mpr buyerIds_obtainable) hcheck

theorem pickedBuyers_obtainable : pickedBuyers.select.Obtainable := by
  have hcheck : pickedBuyers.select.check = .ok () := by cbv
  exact Select.obtainable_of_check
    (List.forall_mem_singleton.mpr buyerIds_obtainable) hcheck

end Draft

theorem buyers_valid_and_rebuilt :
    Draft.pickedBuyers.select.Obtainable ∧
      Draft.pickedBuyers.select.steps =
        [.distinct, .join .leftOuter Draft.orders Draft.isBuyer,
          .filter (.inList (.column Draft.userId)
            [.subSelect Draft.buyerIds.select] false),
          .order [⟨.column ⟨Draft.orders, Draft.buyer⟩, some .desc,
            some .last⟩],
          .limit 10, .offset 3] ∧
      (∀ inner : Select, inner.Within Draft.pickedBuyers.select →
        inner.Valid) ∧
      ∃ again, ((Draft.start Draft.pickedBuyers.select.items
          Draft.pickedBuyers.select.tables).addAll
            Draft.pickedBuyers.select.steps).build = .ok again ∧
        (again == Draft.pickedBuyers.select) = true :=
  ⟨Draft.pickedBuyers_obtainable, rfl,
    obtainable_valid_and_rebuilt Draft.pickedBuyers.select
      Draft.pickedBuyers_obtainable⟩

end SqlStatement
