import SqlStatement.Proofs.EqualDrafts
import SqlStatement.Proofs.Making
import SqlStatement.Proofs.Relabelling
import Mathlib.Tactic

/-!
# What can be made again

Nothing that has the right shape is out of reach of the factories, but for one
thing: they take the names of columns and of bind markers as mere texts, and so
make them without quotes.  Equality does not see quotes.  So a tree of the right
shape is equal to the same tree without any quotes, and this one can be made by
factories alone, together with the statements in it, which can be built of parts
that were.

Hence the shape check lets pass what can be made, up to equality, and nothing
else.
-/

namespace SqlStatement

/-! ## Relabellings that equality does not see -/

/-- The canonical form of a label is that of the label it takes the place of. -/
structure Relabelling.Unseen (r : Relabelling) : Prop where
  name : ∀ id, (r.name id).bare = id.bare
  marker : ∀ id, (r.marker id).bare = id.bare
  literal : ∀ value, (r.literal value).canonical = value.canonical

section Unseen

variable {r : Relabelling}

theorem Relabelling.Unseen.table (h : r.Unseen) (table : Table) :
    (r.table table).canonical = table.canonical := by
  obtain ⟨name, _ | aliasName⟩ := table
  · simp [Relabelling.table, Table.canonical, h.name]
  · simp [Relabelling.table, Table.canonical, h.name]

theorem Relabelling.Unseen.column (h : r.Unseen) (column : Column) :
    (r.column column).canonical = column.canonical := by
  simp [Relabelling.column, Column.canonical, h.table, h.name]

mutual

theorem Expr.canonical_relabel (h : r.Unseen) : ∀ expr : Expr,
    (expr.relabel r).canonical = expr.canonical
  | .column column => by
      rw [Expr.relabel, Expr.canonical, Expr.canonical, h.column]
  | .raw _ => rfl
  | .asterisk table => by
      cases table <;> simp [Expr.relabel, Expr.canonical, h.table]
  | .subSelect select => by
      rw [Expr.relabel, Expr.canonical, Expr.canonical,
        select.canonical_relabel h]
  | .literal value => by
      rw [Expr.relabel, Expr.canonical, Expr.canonical, h.literal]
  | .bind name => by
      cases name <;> simp [Expr.relabel, Expr.canonical, h.marker]
  | .function _ args => by
      rw [Expr.relabel, Expr.canonical, Expr.canonical,
        Expr.listCanonical_relabel h args]

theorem Expr.listCanonical_relabel (h : r.Unseen) : ∀ exprs : List Expr,
    Expr.listCanonical (Expr.listRelabel r exprs) = Expr.listCanonical exprs
  | [] => rfl
  | expr :: exprs => by
      rw [Expr.listRelabel, Expr.listCanonical, Expr.listCanonical,
        expr.canonical_relabel h, Expr.listCanonical_relabel h exprs]

theorem Condition.canonical_relabel (h : r.Unseen) : ∀ condition : Condition,
    (condition.relabel r).canonical = condition.canonical
  | .comparison left _ right | .like left right => by
      rw [Condition.relabel, Condition.canonical, Condition.canonical,
        left.canonical_relabel h, right.canonical_relabel h]
  | .inList left args _ => by
      rw [Condition.relabel, Condition.canonical, Condition.canonical,
        left.canonical_relabel h, Expr.listCanonical_relabel h args]
  | .isNull operand _ => by
      rw [Condition.relabel, Condition.canonical, Condition.canonical,
        operand.canonical_relabel h]
  | .raw _ => rfl
  | .and left right | .or left right => by
      rw [Condition.relabel, Condition.canonical, Condition.canonical,
        left.canonical_relabel h, right.canonical_relabel h]
  | .nested inner | .not inner => by
      rw [Condition.relabel, Condition.canonical, Condition.canonical,
        inner.canonical_relabel h]

theorem Condition.optionCanonical_relabel (h : r.Unseen) :
    ∀ filter : Option Condition,
      Condition.optionCanonical (Condition.optionRelabel r filter) =
        Condition.optionCanonical filter
  | none => rfl
  | some condition => by
      rw [Condition.optionRelabel, Condition.optionCanonical,
        Condition.optionCanonical, condition.canonical_relabel h]

theorem OrderField.canonical_relabel (h : r.Unseen) : ∀ field : OrderField,
    (field.relabel r).canonical = field.canonical
  | ⟨expr, _, _⟩ => by
      rw [OrderField.relabel, OrderField.canonical, OrderField.canonical,
        expr.canonical_relabel h]

theorem OrderField.listCanonical_relabel (h : r.Unseen) :
    ∀ fields : List OrderField,
      OrderField.listCanonical (OrderField.listRelabel r fields) =
        OrderField.listCanonical fields
  | [] => rfl
  | field :: fields => by
      rw [OrderField.listRelabel, OrderField.listCanonical,
        OrderField.listCanonical, field.canonical_relabel h,
        OrderField.listCanonical_relabel h fields]

theorem Join.canonical_relabel (h : r.Unseen) : ∀ join : Join,
    (join.relabel r).canonical = join.canonical
  | ⟨_, _, on⟩ => by
      rw [Join.relabel, Join.canonical, Join.canonical, on.canonical_relabel h,
        h.table]

theorem Join.listCanonical_relabel (h : r.Unseen) : ∀ joins : List Join,
    Join.listCanonical (Join.listRelabel r joins) = Join.listCanonical joins
  | [] => rfl
  | join :: joins => by
      rw [Join.listRelabel, Join.listCanonical, Join.listCanonical,
        join.canonical_relabel h, Join.listCanonical_relabel h joins]

theorem Select.canonical_relabel (h : r.Unseen) : ∀ select : Select,
    (select.relabel r).canonical = select.canonical
  | ⟨_, items, tables, joins, filter, order, _, _⟩ => by
      have htables : (tables.map r.table).map Table.canonical =
          tables.map Table.canonical := by
        rw [List.map_map]
        exact List.map_congr_left fun table _ => h.table table
      rw [Select.relabel, Select.canonical, Select.canonical,
        Expr.listCanonical_relabel h items, Join.listCanonical_relabel h joins,
        Condition.optionCanonical_relabel h filter,
        OrderField.listCanonical_relabel h order, htables]

end

theorem Expr.checkShapes_relabel (h : r.Unseen) (expr : Expr) :
    (Node.expr (expr.relabel r)).checkShapes =
      (Node.expr expr).checkShapes := by
  rw [← Node.checkShapes_canonical, ← Node.checkShapes_canonical (.expr expr),
    Node.canonical, Node.canonical, expr.canonical_relabel h]

theorem Condition.checkShapes_relabel (h : r.Unseen) (condition : Condition) :
    (Node.condition (condition.relabel r)).checkShapes =
      (Node.condition condition).checkShapes := by
  rw [← Node.checkShapes_canonical,
    ← Node.checkShapes_canonical (.condition condition), Node.canonical,
    Node.canonical, condition.canonical_relabel h]

theorem Expr.beq_self_of_checkShapes {expr : Expr}
    (h : (Node.expr expr).checkShapes = .ok ()) : (expr == expr) = true := by
  apply expr.beq_self
  intro inner hinner
  exact Node.selfEqual_of_checkShapes h (expr.reaches_of_mem_scope inner hinner)

theorem Condition.beq_self_of_checkShapes {condition : Condition}
    (h : (Node.condition condition).checkShapes = .ok ()) :
    (condition == condition) = true := by
  apply condition.beq_self
  intro inner hinner
  exact Node.selfEqual_of_checkShapes h
    (condition.reaches_of_mem_scope inner hinner)

theorem Expr.beq_relabel (hr : r.Unseen) {expr : Expr}
    (h : (Node.expr expr).checkShapes = .ok ()) :
    (expr == expr.relabel r) = true := by
  have hrelabelled := (expr.checkShapes_relabel hr).trans h
  exact (expr.equalByKey _).mpr ⟨beq_self_of_checkShapes h,
    beq_self_of_checkShapes hrelabelled, (expr.canonical_relabel hr).symm⟩

theorem Condition.beq_relabel (hr : r.Unseen) {condition : Condition}
    (h : (Node.condition condition).checkShapes = .ok ()) :
    (condition == condition.relabel r) = true := by
  have hrelabelled := (condition.checkShapes_relabel hr).trans h
  exact (condition.equalByKey _).mpr ⟨beq_self_of_checkShapes h,
    beq_self_of_checkShapes hrelabelled, (condition.canonical_relabel hr).symm⟩

theorem Select.check_canonical_eq_ok_iff (select : Select) :
    select.canonical.check = .ok () ↔ select.check = .ok () := by
  rw [check_canonical]
  cases select.check <;> simp [Except.mapError]

theorem Select.check_relabel (h : r.Unseen) {select : Select}
    (hcheck : select.check = .ok ()) : (select.relabel r).check = .ok () := by
  rw [← check_canonical_eq_ok_iff, select.canonical_relabel h]
  exact select.check_canonical_eq_ok_iff.mpr hcheck

end Unseen

/-! ## Trees of the right shape can be made -/

/-- Takes the quotes from all names. -/
def Relabelling.plain : Relabelling where
  name := Identifier.bare
  marker := Identifier.bare
  literal := id
  name_marker := Identifier.name_bare

theorem Relabelling.plain_unseen : plain.Unseen :=
  ⟨fun _ => rfl, fun _ => rfl, fun _ => rfl⟩

theorem Literal.factoryMade {value : Literal}
    (h : (Expr.literal value).WellShaped) :
    (Expr.literal value).FactoryMade := by
  cases value with
  | integer value => exact .integer value
  | float value => exact .float (Expr.Factory.float_eq_ok_iff.mpr ⟨h, rfl⟩)
  | string value => exact .string value
  | boolean value => exact .boolean value
  | null => exact .null

theorem Condition.factoryMade_comparison {left right : Expr}
    (comparator : Comparator) (hleft : left.FactoryMade)
    (hright : right.FactoryMade) :
    (Condition.comparison left comparator right).FactoryMade := by
  cases comparator with
  | eq => exact .isEqual hleft hright
  | ne => exact .isNotEqual hleft hright
  | lt => exact .isLess hleft hright
  | le => exact .isLessOrEqualTo hleft hright
  | gt => exact .isGreater hleft hright
  | ge => exact .isGreaterOrEqualTo hleft hright

theorem Condition.factoryMade_inList {left : Expr} {args : List Expr}
    (negated : Bool) (hne : args ≠ []) (hleft : left.FactoryMade)
    (hargs : ∀ arg ∈ args, arg.FactoryMade) :
    (Condition.inList left args negated).FactoryMade := by
  have hmade := Factory.inArgs_eq_ok_iff.mpr
    ⟨hne, (rfl : Condition.inList left args negated = _)⟩
  cases negated with
  | false => exact .inList hleft hargs hmade
  | true => exact .notInList hleft hargs hmade

theorem Condition.factoryMade_isNull {operand : Expr} (negated : Bool)
    (hoperand : operand.FactoryMade) :
    (Condition.isNull operand negated).FactoryMade := by
  cases negated with
  | false => exact .isNull hoperand
  | true => exact .isNotNull hoperand

theorem Expr.wellShaped_of_checkShapes {expr : Expr}
    (h : (Node.expr expr).checkShapes = .ok ()) : expr.WellShaped :=
  expr.checkShape_eq_ok_iff.mp ((Node.checkShapes_eq_ok_iff _).mp h).1

theorem Condition.wellShaped_of_checkShapes {condition : Condition}
    (h : (Node.condition condition).checkShapes = .ok ()) :
    condition.WellShaped :=
  condition.checkShape_eq_ok_iff.mp ((Node.checkShapes_eq_ok_iff _).mp h).1

theorem Expr.factoryMade_relabel (expr : Expr) :
    (Node.expr expr).checkShapes = .ok () →
      (expr.relabel .plain).FactoryMade := by
  induction expr using Expr.inductionOn with
  | column column =>
      intro _
      exact .column (Factory.column_eq_ok_iff.mpr
        ⟨column.name.name_not_blank, rfl⟩)
  | raw text =>
      intro h
      exact .just
        (Factory.just_eq_ok_iff.mpr ⟨wellShaped_of_checkShapes h, rfl⟩)
  | asterisk table =>
      intro _
      cases table with
      | none => exact .asterisk
      | some table => exact .asteriskFrom _
  | subSelect select => exact fun _ => .subSelect _
  | literal value =>
      intro h
      exact Literal.factoryMade (wellShaped_of_checkShapes h)
  | bind name =>
      intro _
      cases name with
      | none => exact .bindMarker
      | some name =>
          exact .namedBindMarker (Factory.namedBindMarker_eq_ok_iff.mpr
            ⟨name.name_not_blank, rfl⟩)
  | function name args ih =>
      intro h
      have hargs : ∀ arg ∈ listRelabel .plain args, arg.FactoryMade := by
        rw [listRelabel_eq_map, List.forall_mem_map]
        intro arg harg
        exact ih arg harg
          (((Node.checkShapes_eq_ok_iff _).mp h).2 _ (List.mem_map_of_mem harg))
      exact .call hargs
        (Factory.call_eq_ok_iff.mpr ⟨wellShaped_of_checkShapes h, rfl⟩)

theorem Condition.factoryMade_relabel (condition : Condition) :
    (Node.condition condition).checkShapes = .ok () →
      (condition.relabel .plain).FactoryMade := by
  induction condition using Condition.inductionOn with
  | comparison left comparator right =>
      intro h
      obtain ⟨_, hchildren⟩ := (Node.checkShapes_eq_ok_iff _).mp h
      exact factoryMade_comparison comparator
        (left.factoryMade_relabel (hchildren _ (left_mem_children rfl)))
        (right.factoryMade_relabel (hchildren _ (right_mem_children rfl)))
  | like left right =>
      intro h
      obtain ⟨_, hchildren⟩ := (Node.checkShapes_eq_ok_iff _).mp h
      exact .like
        (left.factoryMade_relabel (hchildren _ (left_mem_children rfl)))
        (right.factoryMade_relabel (hchildren _ (right_mem_children rfl)))
  | inList left args negated =>
      intro h
      obtain ⟨_, hchildren⟩ := (Node.checkShapes_eq_ok_iff _).mp h
      have hne : Expr.listRelabel .plain args ≠ [] := by
        rw [Expr.listRelabel_eq_map, Ne, List.map_eq_nil_iff]
        exact wellShaped_of_checkShapes h
      have hargs : ∀ arg ∈ Expr.listRelabel .plain args, arg.FactoryMade := by
        rw [Expr.listRelabel_eq_map, List.forall_mem_map]
        intro arg harg
        exact arg.factoryMade_relabel
          (hchildren _ (List.mem_cons_of_mem _ (List.mem_map_of_mem harg)))
      exact factoryMade_inList negated hne
        (left.factoryMade_relabel (hchildren _ List.mem_cons_self)) hargs
  | isNull operand negated =>
      intro h
      exact factoryMade_isNull negated (operand.factoryMade_relabel
        (((Node.checkShapes_eq_ok_iff _).mp h).2 _ List.mem_cons_self))
  | nested inner ih =>
      intro h
      exact .nest
        (ih (((Node.checkShapes_eq_ok_iff _).mp h).2 _ List.mem_cons_self))
  | raw text =>
      intro h
      exact .just
        (Factory.just_eq_ok_iff.mpr ⟨wellShaped_of_checkShapes h, rfl⟩)
  | and left right ihleft ihright =>
      intro h
      obtain ⟨_, hchildren⟩ := (Node.checkShapes_eq_ok_iff _).mp h
      exact .and (ihleft (hchildren _ (left_mem_children rfl)))
        (ihright (hchildren _ (right_mem_children rfl)))
  | or left right ihleft ihright =>
      intro h
      obtain ⟨_, hchildren⟩ := (Node.checkShapes_eq_ok_iff _).mp h
      exact .or (ihleft (hchildren _ (left_mem_children rfl)))
        (ihright (hchildren _ (right_mem_children rfl)))
  | not inner ih =>
      intro h
      exact .not
        (ih (((Node.checkShapes_eq_ok_iff _).mp h).2 _ List.mem_cons_self))

namespace Select

theorem partsMade_relabel {select : Select}
    (h : (Node.select select).checkShapes = .ok ()) :
    (select.relabel .plain).PartsMadeOf fun _ => False := by
  have hexpr : ∀ expr, (Node.select select).Reaches (.expr expr) →
      (expr.relabel .plain).FactoryMade := fun expr hreaches =>
    expr.factoryMade_relabel (hreaches.checkShapes_eq_ok h)
  have hcondition : ∀ condition,
      (Node.select select).Reaches (.condition condition) →
        (condition.relabel .plain).FactoryMade := fun condition hreaches =>
    condition.factoryMade_relabel (hreaches.checkShapes_eq_ok h)
  have hitems : ∀ item ∈ select.items, (item.relabel .plain).FactoryMade :=
    fun item hmem => hexpr item
      (.child List.mem_cons_self (.child (List.mem_map_of_mem hmem) (.self _)))
  have hjoins : ∀ join ∈ select.joins, (join.on.relabel .plain).FactoryMade :=
    fun join hmem => hcondition join.on
      (.child (join_mem_children hmem) (.child (by simp [Node.children])
        (.self _)))
  have hfilter : ∀ condition ∈ select.filter,
      (condition.relabel .plain).FactoryMade :=
    fun condition hmem => hcondition condition
      (.child (filter_mem_children hmem) (.child List.mem_cons_self (.self _)))
  have horder : ∀ field ∈ select.order,
      (field.expr.relabel .plain).FactoryMade :=
    fun field hmem => hexpr field.expr
      (.child (order_mem_children hmem) (.child (List.mem_map_of_mem hmem)
        (.child List.mem_cons_self (.self _))))
  obtain ⟨distinct, items, tables, joins, filter, order, limit, offset⟩ :=
    select
  constructor
  · simpa [relabel, Expr.listRelabel_eq_map] using hitems
  · simpa [relabel, Join.listRelabel_eq_map] using hjoins
  · simpa [relabel, Condition.optionRelabel_eq_map] using hfilter
  · simpa [relabel, OrderField.listRelabel_eq_map] using horder

theorem PartsMadeOf.steps {given : Expr → Prop} {select : Select}
    (h : select.PartsMadeOf given) :
    ∀ step ∈ select.steps, step.MadeOf given := by
  intro step hmem
  simp only [Select.steps, List.mem_append, List.mem_map, Option.mem_toList,
    List.mem_singleton] at hmem
  rcases hmem with ((((hdistinct | ⟨join, hjoin, rfl⟩) |
    ⟨condition, hfilter, rfl⟩) | rfl) | ⟨count, _, rfl⟩) | ⟨count, _, rfl⟩
  · split at hdistinct
    · obtain rfl := List.mem_singleton.mp hdistinct
      trivial
    · cases hdistinct
  · exact h.joins join hjoin
  · exact h.filter condition hfilter
  · exact h.order
  · trivial
  · trivial

end Select

/-! ## Statements built of parts that were made -/

/-- Built of parts that were made by factories alone, as were the parts of the
statements in them. -/
inductive Select.Composed : Select → Prop where
  | build {early : ℕ} {items : List Expr} {tables : List Table}
      {steps : List Draft.Step} {select : Select}
      (hitems : ∀ item ∈ items, item.FactoryMade)
      (hsteps : ∀ step ∈ steps, step.FactoryMade)
      (hinputs : ∀ sub ∈ Draft.inputSubSelects items steps, Composed sub)
      (hbuild : ((Draft.startAfter early items tables).addAll steps).build =
        .ok select) :
      Composed select

theorem Select.Composed.obtainable {select : Select} (h : select.Composed) :
    select.Obtainable := by
  induction h with
  | build _ _ _ hbuild ih => exact .build ih hbuild

theorem Select.Obtainable.composed_relabel {select : Select}
    (h : select.Obtainable) : (select.relabel .plain).Composed := by
  induction h with
  | @build early items tables steps select hinputs hbuild ih =>
      have hobtainable := Obtainable.build hinputs hbuild
      have hparts := partsMade_relabel hobtainable.checkShapes_eq_ok
      have hsubs : ∀ sub ∈ Draft.inputSubSelects
            (select.relabel .plain).items
            (select.relabel .plain).steps, sub.Composed := by
        rw [Draft.inputSubSelects_steps, subSelects_relabel,
          List.forall_mem_map]
        exact fun sub hsub =>
          ih sub (Draft.mem_inputSubSelects_of_build hbuild hsub)
      have hcheck :=
        check_relabel Relabelling.plain_unseen hobtainable.check_eq_ok
      exact .build hparts.items hparts.steps hsubs
        (Draft.build_addAll_steps hcheck)

/-! ## The two lines are one -/

/-- Every node that a walk comes to has the shape that is asked for. -/
def Node.InShape (node : Node) : Prop :=
  ∀ reached, node.Reaches reached → reached.checkShape = .ok ()

theorem Node.inShape_iff (node : Node) :
    node.InShape ↔ node.checkShapes = .ok () := by
  constructor
  · intro h
    induction node using Node.inductionOn with
    | step node ih =>
        rw [checkShapes_eq_ok_iff]
        refine ⟨h node (.self node), fun child hmem => ?_⟩
        exact ih child hmem fun reached hreaches =>
          h reached (.child hmem hreaches)
  · intro h reached hreaches
    exact hreaches.checkShape_eq_ok h

/-- Whatever is made by the factories and the conversions from columns, finite
literals and statements that were obtained, is in shape, and a draft of it that
has items and tables is never refused as an invalid argument.  Conversely any
expression or condition that is in shape equals one that was made by factories
alone, with the statements in it built of parts that were. -/
theorem makers_and_shape_check_agree :
    (∀ expr : Expr, expr.Made → (Node.expr expr).Built →
      (Node.expr expr).InShape) ∧
    (∀ condition : Condition, condition.Made →
      (Node.condition condition).Built → (Node.condition condition).InShape) ∧
    (∀ (early : ℕ) (items : List Expr) (tables : List Table)
        (steps : List Draft.Step),
      items ≠ [] → tables ≠ [] → (∀ item ∈ items, item.Made) →
        (∀ step ∈ steps, step.Made) →
        (∀ sub ∈ Draft.inputSubSelects items steps, sub.Obtainable) →
        ∀ cause, ((Draft.startAfter early items tables).addAll steps).build ≠
          .error (.invalidArgument cause)) ∧
    (∀ expr : Expr, (Node.expr expr).Built → (Node.expr expr).InShape →
      ∃ made : Expr, made.FactoryMade ∧
        (∀ sub ∈ made.subSelects, sub.Composed) ∧
        (expr == made) = true) ∧
    ∀ condition : Condition, (Node.condition condition).Built →
      (Node.condition condition).InShape →
      ∃ made : Condition, made.FactoryMade ∧
        (∀ sub ∈ made.subSelects, sub.Composed) ∧
        (condition == made) = true := by
  refine ⟨?_, ?_, ?_, ?_, ?_⟩
  · intro expr hmade hbuilt
    exact (Node.inShape_iff _).mpr (hmade.accepted hbuilt)
  · intro condition hmade hbuilt
    exact (Node.inShape_iff _).mpr (hmade.accepted hbuilt)
  · intro early items tables steps hitems htables hmade hsteps hinputs
    exact Draft.build_made_ne_invalidArgument hitems htables hmade hsteps
      hinputs
  · intro expr hbuilt hshape
    rw [Node.inShape_iff] at hshape
    refine ⟨expr.relabel .plain, expr.factoryMade_relabel hshape, ?_,
      Expr.beq_relabel Relabelling.plain_unseen hshape⟩
    rw [expr.subSelects_relabel, List.forall_mem_map]
    exact fun sub hsub => (hbuilt sub hsub).composed_relabel
  · intro condition hbuilt hshape
    rw [Node.inShape_iff] at hshape
    refine ⟨condition.relabel .plain, condition.factoryMade_relabel hshape, ?_,
      Condition.beq_relabel Relabelling.plain_unseen hshape⟩
    rw [condition.subSelects_relabel, List.forall_mem_map]
    exact fun sub hsub => (hbuilt sub hsub).composed_relabel

/-- Users by a float, and by a column and a marker with quotes, which no factory
makes so. -/
def Condition.givenUser : Condition :=
  let least : Identifier := ⟨"least", true, by decide⟩
  .inList (.function "COUNT" [.column ⟨Draft.users, least⟩])
    [.literal (.float ⟨0x3FF8000000000000⟩), .bind (some least)] true

/-- Users who ordered nothing, as the factories make it. -/
def Condition.isNoBuyer : Condition :=
  Factory.notInSelect (.column Draft.userId) Draft.buyerIds.select

theorem buyers_in_shape_and_made_again :
    ((Node.expr (.subSelect Draft.buyers.select)).InShape ∧
      ∃ made : Expr, made.FactoryMade ∧
        (∀ sub ∈ made.subSelects, sub.Composed) ∧
        (Expr.subSelect Draft.buyers.select == made) = true) ∧
    ((Node.condition .givenUser).InShape ∧
      ∃ made : Condition, made.FactoryMade ∧
        (∀ sub ∈ made.subSelects, sub.Composed) ∧
        (Condition.givenUser == made) = true) ∧
    (Node.condition .isNoBuyer).InShape ∧
    ∀ cause, ((Draft.startAfter 1 [Expr.Factory.count (.column Draft.userId)]
        [Draft.users]).addAll [.filter .isNoBuyer]).build ≠
      .error (.invalidArgument cause) := by
  obtain ⟨hexpr, hcondition, hdraft, hexprMade, hconditionMade⟩ :=
    makers_and_shape_check_agree
  have huserId : (Expr.column Draft.userId).Made := .given (.column _)
  have hisNoBuyer : Condition.isNoBuyer.Made :=
    .notInSelect Draft.buyerIds.select huserId
  have hbuyers : (Node.expr (.subSelect Draft.buyers.select)).Built :=
    List.forall_mem_singleton.mpr Draft.buyers_obtainable
  have hbuyersShape := hexpr _ (.subSelect Draft.buyers.select) hbuyers
  have hgiven : (Node.condition .givenUser).Built := List.forall_mem_nil _
  have hgivenShape : (Node.condition .givenUser).InShape := by
    rw [Node.inShape_iff, Node.checkShapes_eq_reportFault]
    rfl
  have hbuilt : (Node.condition .isNoBuyer).Built :=
    List.forall_mem_singleton.mpr Draft.buyerIds_obtainable
  refine ⟨⟨hbuyersShape, hexprMade _ hbuyers hbuyersShape⟩,
    ⟨hgivenShape, hconditionMade _ hgiven hgivenShape⟩,
    hcondition _ hisNoBuyer hbuilt, ?_⟩
  apply hdraft 1
  · exact List.cons_ne_nil _ _
  · exact List.cons_ne_nil _ _
  · exact List.forall_mem_singleton.mpr (.count huserId)
  · exact List.forall_mem_singleton.mpr hisNoBuyer
  · exact List.forall_mem_singleton.mpr Draft.buyerIds_obtainable

end SqlStatement
