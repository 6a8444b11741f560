import SqlStatement.Condition.Factory
import SqlStatement.Expr.Factory
import SqlStatement.Naming
import SqlStatement.Proofs.ClosedScope
import Mathlib.Tactic

/-!
# What can be made

The factories of expressions and conditions take parts that were made before and
refuse those of a wrong shape.  Beside them a column, a literal and a statement
turn into an expression as they are.  Other trees are put together by hand.  By
induction on how it was made, everything that was made passes the shape check,
at every node and with any statements in parentheses in it, as long as these
were obtained and the literals are finite.  So a draft of parts that were made
has the right shape too, and if it is refused, then for a table that it does not
import.
-/

namespace SqlStatement

/-- Made by the factories, of parts that were made or given before. -/
inductive Expr.MadeOf (given : Expr → Prop) : Expr → Prop where
  | given {expr : Expr} (h : given expr) : MadeOf given expr
  | asterisk : MadeOf given Factory.asterisk
  | asteriskFrom (table : Table) : MadeOf given (Factory.asteriskFrom table)
  | just {text : String} {expr : Expr} (h : Factory.just text = .ok expr) :
      MadeOf given expr
  | column {table : Table} {name : String} {expr : Expr}
      (h : Factory.column table name = .ok expr) : MadeOf given expr
  | subSelect (select : Select) : MadeOf given (Factory.subSelect select)
  | integer (value : Int64) : MadeOf given (Factory.integer value)
  | float {value : Binary64} {expr : Expr}
      (h : Factory.float value = .ok expr) : MadeOf given expr
  | string (value : String) : MadeOf given (Factory.string value)
  | boolean (value : Bool) : MadeOf given (Factory.boolean value)
  | null : MadeOf given Factory.null
  | bindMarker : MadeOf given Factory.bindMarker
  | namedBindMarker {name : String} {expr : Expr}
      (h : Factory.namedBindMarker name = .ok expr) : MadeOf given expr
  | count {arg : Expr} (harg : MadeOf given arg) :
      MadeOf given (Factory.count arg)
  | upper {arg : Expr} (harg : MadeOf given arg) :
      MadeOf given (Factory.upper arg)
  | lower {arg : Expr} (harg : MadeOf given arg) :
      MadeOf given (Factory.lower arg)
  | call {name : String} {args : List Expr} {expr : Expr}
      (hargs : ∀ arg ∈ args, MadeOf given arg)
      (h : Factory.call name args = .ok expr) : MadeOf given expr

/-- The factories `nest`, `and`, `or` and `not` do no more than the
constructors, by which conditions are combined directly. -/
inductive Condition.MadeOf (given : Expr → Prop) : Condition → Prop where
  | isEqual {left right : Expr} (hleft : left.MadeOf given)
      (hright : right.MadeOf given) :
      MadeOf given (Factory.isEqual left right)
  | isNotEqual {left right : Expr} (hleft : left.MadeOf given)
      (hright : right.MadeOf given) :
      MadeOf given (Factory.isNotEqual left right)
  | isLess {left right : Expr} (hleft : left.MadeOf given)
      (hright : right.MadeOf given) :
      MadeOf given (Factory.isLess left right)
  | isLessOrEqualTo {left right : Expr} (hleft : left.MadeOf given)
      (hright : right.MadeOf given) :
      MadeOf given (Factory.isLessOrEqualTo left right)
  | isGreater {left right : Expr} (hleft : left.MadeOf given)
      (hright : right.MadeOf given) :
      MadeOf given (Factory.isGreater left right)
  | isGreaterOrEqualTo {left right : Expr} (hleft : left.MadeOf given)
      (hright : right.MadeOf given) :
      MadeOf given (Factory.isGreaterOrEqualTo left right)
  | compare {left right : Expr} {operator : String} {condition : Condition}
      (hleft : left.MadeOf given) (hright : right.MadeOf given)
      (h : Factory.compare left operator right = .ok condition) :
      MadeOf given condition
  | like {left right : Expr} (hleft : left.MadeOf given)
      (hright : right.MadeOf given) : MadeOf given (Factory.like left right)
  | inOne {left arg : Expr} (hleft : left.MadeOf given)
      (harg : arg.MadeOf given) : MadeOf given (Factory.inOne left arg)
  | inList {left : Expr} {args : List Expr} {condition : Condition}
      (hleft : left.MadeOf given) (hargs : ∀ arg ∈ args, arg.MadeOf given)
      (h : Factory.inList left args = .ok condition) : MadeOf given condition
  | inSelect {left : Expr} (select : Select) (hleft : left.MadeOf given) :
      MadeOf given (Factory.inSelect left select)
  | notInOne {left arg : Expr} (hleft : left.MadeOf given)
      (harg : arg.MadeOf given) : MadeOf given (Factory.notInOne left arg)
  | notInList {left : Expr} {args : List Expr} {condition : Condition}
      (hleft : left.MadeOf given) (hargs : ∀ arg ∈ args, arg.MadeOf given)
      (h : Factory.notInList left args = .ok condition) :
      MadeOf given condition
  | notInSelect {left : Expr} (select : Select) (hleft : left.MadeOf given) :
      MadeOf given (Factory.notInSelect left select)
  | isNull {operand : Expr} (hoperand : operand.MadeOf given) :
      MadeOf given (Factory.isNull operand)
  | isNotNull {operand : Expr} (hoperand : operand.MadeOf given) :
      MadeOf given (Factory.isNotNull operand)
  | nest {inner : Condition} (hinner : MadeOf given inner) :
      MadeOf given (Factory.nest inner)
  | just {text : String} {condition : Condition}
      (h : Factory.just text = .ok condition) : MadeOf given condition
  | and {left right : Condition} (hleft : MadeOf given left)
      (hright : MadeOf given right) : MadeOf given (Factory.and left right)
  | or {left right : Condition} (hleft : MadeOf given left)
      (hright : MadeOf given right) : MadeOf given (Factory.or left right)
  | not {inner : Condition} (hinner : MadeOf given inner) :
      MadeOf given (Factory.not inner)

def Literal.IsFinite (value : Literal) : Prop :=
  ∀ number, value = .float number → number.isFinite = true

/-- A column, a finite literal or a statement that turned into an expression,
without a factory. -/
inductive Expr.Converted : Expr → Prop where
  | column (column : Column) : Converted (.column column)
  | literal {value : Literal} (h : value.IsFinite) : Converted (.literal value)
  | select (select : Select) : Converted (.subSelect select)

/-- Made by the factories and the conversions. -/
abbrev Expr.Made : Expr → Prop :=
  MadeOf Converted

@[inherit_doc Expr.Made]
abbrev Condition.Made : Condition → Prop :=
  MadeOf Expr.Converted

/-- Made by the factories alone. -/
abbrev Expr.FactoryMade : Expr → Prop :=
  MadeOf fun _ => False

@[inherit_doc Expr.FactoryMade]
abbrev Condition.FactoryMade : Condition → Prop :=
  MadeOf fun _ => False

/-! ## When something can be made -/

theorem require_bind_eq_ok_iff {condition : Bool} {cause : InvalidArgument}
    {made result : α} :
    (require condition cause >>= fun _ => pure made) = .ok result ↔
      condition = true ∧ made = result := by
  cases condition <;>
    simp [require, bind, Except.bind, pure, Except.pure]

theorem map_unquoted_eq_ok_iff {make : Identifier → α} {name : String}
    {result : α} :
    make <$> Identifier.unquoted name = .ok result ↔
      ∃ h : Text.isBlank name = false, make ⟨name, false, h⟩ = result := by
  unfold Identifier.unquoted Identifier.create Identifier.named?
  by_cases h : Text.isBlank name = false <;> simp [h, Functor.map, Except.map]

namespace Expr.Factory

theorem just_eq_ok_iff {text : String} {expr : Expr} :
    just text = .ok expr ↔ Text.isBlank text = false ∧ .raw text = expr :=
  require_bind_eq_ok_iff.trans (by rw [Bool.not_eq_true'])

theorem column_eq_ok_iff {table : Table} {name : String} {expr : Expr} :
    column table name = .ok expr ↔
      ∃ h : Text.isBlank name = false,
        .column ⟨table, ⟨name, false, h⟩⟩ = expr := by
  unfold column Table.column
  rw [← comp_map]
  exact map_unquoted_eq_ok_iff

theorem float_eq_ok_iff {value : Binary64} {expr : Expr} :
    float value = .ok expr ↔
      value.isFinite = true ∧ .literal (.float value) = expr :=
  require_bind_eq_ok_iff

theorem namedBindMarker_eq_ok_iff {name : String} {expr : Expr} :
    namedBindMarker name = .ok expr ↔
      ∃ h : Text.isBlank name = false,
        .bind (some ⟨name, false, h⟩) = expr :=
  map_unquoted_eq_ok_iff

theorem call_eq_ok_iff {name : String} {args : List Expr} {expr : Expr} :
    call name args = .ok expr ↔
      Text.isBlank name = false ∧ .function name args = expr :=
  require_bind_eq_ok_iff.trans (by rw [Bool.not_eq_true'])

end Expr.Factory

namespace Condition.Factory

theorem just_eq_ok_iff {text : String} {condition : Condition} :
    just text = .ok condition ↔
      Text.isBlank text = false ∧ .raw text = condition :=
  require_bind_eq_ok_iff.trans (by rw [Bool.not_eq_true'])

theorem inArgs_eq_ok_iff {left : Expr} {args : List Expr} {negated : Bool}
    {condition : Condition} :
    inArgs left args negated = .ok condition ↔
      args ≠ [] ∧ .inList left args negated = condition :=
  require_bind_eq_ok_iff.trans (by simp)

theorem compare_eq_ok {left right : Expr} {operator : String}
    {condition : Condition} (h : compare left operator right = .ok condition) :
    ∃ comparator, condition = .comparison left comparator right := by
  unfold compare at h
  cases hread : Comparator.read operator with
  | error cause => simp [hread, Functor.map, Except.map] at h
  | ok comparator =>
      rw [hread] at h
      exact ⟨comparator, (Except.ok.inj h).symm⟩

end Condition.Factory

/-! ## What was made passes the shape check -/

/-- The node passes the shape check if nothing was done to it by hand but to
put statements in parentheses that were obtained. -/
def Node.Accepted (node : Node) : Prop :=
  node.Built → node.checkShapes = .ok ()

namespace Node

theorem accepted_of_children {node : Node} (hshape : node.checkShape = .ok ())
    (hchildren : ∀ child ∈ node.children, child.Accepted) :
    node.Accepted := by
  intro hbuilt
  rw [checkShapes_eq_ok_iff]
  exact ⟨hshape, fun child hmem =>
    hchildren child hmem (hbuilt.of_mem_children hmem)⟩

theorem accepted_of_childless {node : Node} (hchildren : node.children = [])
    (hshape : node.checkShape = .ok ()) : node.Accepted := by
  refine accepted_of_children hshape ?_
  rw [hchildren]
  exact List.forall_mem_nil _

theorem accepted_of_single {node inner : Node}
    (hchildren : node.children = [inner]) (hshape : node.checkShape = .ok ())
    (hinner : inner.Accepted) : node.Accepted := by
  refine accepted_of_children hshape ?_
  rw [hchildren]
  exact List.forall_mem_singleton.mpr hinner

theorem accepted_of_pair {node left right : Node}
    (hchildren : node.children = [left, right])
    (hshape : node.checkShape = .ok ()) (hleft : left.Accepted)
    (hright : right.Accepted) : node.Accepted := by
  refine accepted_of_children hshape ?_
  rw [hchildren, List.forall_mem_cons]
  exact ⟨hleft, List.forall_mem_singleton.mpr hright⟩

theorem accepted_of_map {node : Node} {parts : List α} {child : α → Node}
    (hchildren : node.children = parts.map child)
    (hshape : node.checkShape = .ok ())
    (hparts : ∀ part ∈ parts, (child part).Accepted) : node.Accepted := by
  refine accepted_of_children hshape ?_
  rw [hchildren, List.forall_mem_map]
  exact hparts

theorem accepted_select (select : Select) : (Node.select select).Accepted :=
  fun hbuilt => (hbuilt select List.mem_cons_self).checkShapes_eq_ok

end Node

theorem Expr.Converted.accepted {expr : Expr} (h : expr.Converted) :
    (Node.expr expr).Accepted := by
  cases h with
  | column column => exact Node.accepted_of_childless rfl rfl
  | @literal value h =>
      refine Node.accepted_of_childless rfl
        ((Expr.literal value).checkShape_eq_ok_iff.mpr ?_)
      cases value with
      | float number => exact h number rfl
      | _ => trivial
  | select select =>
      exact Node.accepted_of_single rfl rfl (Node.accepted_select select)

theorem Expr.MadeOf.accepted {expr : Expr} (h : expr.Made) :
    (Node.expr expr).Accepted := by
  induction h with
  | given h => exact h.accepted
  | asterisk | asteriskFrom | integer | string | boolean | null | bindMarker =>
      exact Node.accepted_of_childless rfl rfl
  | just h =>
      obtain ⟨hblank, rfl⟩ := Factory.just_eq_ok_iff.mp h
      exact Node.accepted_of_childless rfl
        ((raw _).checkShape_eq_ok_iff.mpr hblank)
  | column h =>
      obtain ⟨hblank, rfl⟩ := Factory.column_eq_ok_iff.mp h
      exact Node.accepted_of_childless rfl rfl
  | subSelect select =>
      exact Node.accepted_of_single rfl rfl (Node.accepted_select select)
  | float h =>
      obtain ⟨hfinite, rfl⟩ := Factory.float_eq_ok_iff.mp h
      exact Node.accepted_of_childless rfl
        ((Expr.literal (.float _)).checkShape_eq_ok_iff.mpr hfinite)
  | namedBindMarker h =>
      obtain ⟨hblank, rfl⟩ := Factory.namedBindMarker_eq_ok_iff.mp h
      exact Node.accepted_of_childless rfl rfl
  | count harg ih | upper harg ih | lower harg ih =>
      exact Node.accepted_of_single rfl rfl ih
  | @call name args expr hargs h ih =>
      obtain ⟨hblank, rfl⟩ := Factory.call_eq_ok_iff.mp h
      exact Node.accepted_of_map rfl
        ((function name args).checkShape_eq_ok_iff.mpr hblank) ih

namespace Condition

theorem accepted_inList {left : Expr} {args : List Expr} {negated : Bool}
    (hne : args ≠ []) (hleft : left.Made) (hargs : ∀ arg ∈ args, arg.Made) :
    (Node.condition (.inList left args negated)).Accepted := by
  have hparts : ∀ part ∈ left :: args, (Node.expr part).Accepted := by
    rw [List.forall_mem_cons]
    exact ⟨hleft.accepted, fun arg harg => (hargs arg harg).accepted⟩
  exact Node.accepted_of_map rfl
    ((inList left args negated).checkShape_eq_ok_iff.mpr hne) hparts

theorem accepted_inArgs {left : Expr} {args : List Expr} {negated : Bool}
    {condition : Condition} (hleft : left.Made)
    (hargs : ∀ arg ∈ args, arg.Made)
    (h : Factory.inArgs left args negated = .ok condition) :
    (Node.condition condition).Accepted := by
  obtain ⟨hne, rfl⟩ := Factory.inArgs_eq_ok_iff.mp h
  exact accepted_inList hne hleft hargs

theorem MadeOf.accepted {condition : Condition} (h : condition.Made) :
    (Node.condition condition).Accepted := by
  induction h with
  | isEqual hleft hright | isNotEqual hleft hright | isLess hleft hright
  | isLessOrEqualTo hleft hright | isGreater hleft hright
  | isGreaterOrEqualTo hleft hright | like hleft hright =>
      exact Node.accepted_of_pair rfl rfl hleft.accepted hright.accepted
  | compare hleft hright h =>
      obtain ⟨comparator, rfl⟩ := Factory.compare_eq_ok h
      exact Node.accepted_of_pair rfl rfl hleft.accepted hright.accepted
  | inOne hleft harg | notInOne hleft harg =>
      exact accepted_inList (List.cons_ne_nil _ _) hleft
        (List.forall_mem_singleton.mpr harg)
  | inSelect select hleft | notInSelect select hleft =>
      exact accepted_inList (List.cons_ne_nil _ _) hleft
        (List.forall_mem_singleton.mpr (.subSelect select))
  | inList hleft hargs h | notInList hleft hargs h =>
      exact accepted_inArgs hleft hargs h
  | isNull hoperand | isNotNull hoperand =>
      exact Node.accepted_of_single rfl rfl hoperand.accepted
  | just h =>
      obtain ⟨hblank, rfl⟩ := Factory.just_eq_ok_iff.mp h
      exact Node.accepted_of_childless rfl
        ((raw _).checkShape_eq_ok_iff.mpr hblank)
  | nest _ ih | not _ ih => exact Node.accepted_of_single rfl rfl ih
  | and _ _ ihleft ihright | or _ _ ihleft ihright =>
      exact Node.accepted_of_pair rfl rfl ihleft ihright

end Condition

/-! ## Drafts of parts that were made -/

def Draft.Step.MadeOf (given : Expr → Prop) : Draft.Step → Prop
  | .join _ _ on => on.MadeOf given
  | .filter condition => condition.MadeOf given
  | .and condition => condition.MadeOf given
  | .or condition => condition.MadeOf given
  | .order fields => ∀ field ∈ fields, field.expr.MadeOf given
  | .limit _ => True
  | .offset _ => True
  | .distinct => True

@[inherit_doc Expr.Made]
abbrev Draft.Step.Made : Draft.Step → Prop :=
  MadeOf Expr.Converted

@[inherit_doc Expr.FactoryMade]
abbrev Draft.Step.FactoryMade : Draft.Step → Prop :=
  MadeOf fun _ => False

structure Select.PartsMadeOf (given : Expr → Prop) (select : Select) :
    Prop where
  items : ∀ item ∈ select.items, item.MadeOf given
  joins : ∀ join ∈ select.joins, join.on.MadeOf given
  filter : ∀ condition ∈ select.filter, condition.MadeOf given
  order : ∀ field ∈ select.order, field.expr.MadeOf given

namespace Select.PartsMadeOf

theorem accepted_of_mem_children {select : Select}
    (h : select.PartsMadeOf Expr.Converted) {child : Node}
    (hmem : child ∈ (Node.select select).children) : child.Accepted := by
  simp only [Node.children, List.cons_append, List.mem_cons, List.mem_append,
    List.mem_map, Option.mem_toList, Option.map_eq_some_iff] at hmem
  rcases hmem with rfl | rfl | (⟨join, hjoin, rfl⟩ |
    ⟨condition, hfilter, rfl⟩) | horder
  · exact Node.accepted_of_map rfl rfl fun item hitem =>
      (h.items item hitem).accepted
  · exact Node.accepted_of_map rfl rfl fun table _ =>
      Node.accepted_of_childless rfl rfl
  · exact Node.accepted_of_pair rfl rfl (Node.accepted_of_childless rfl rfl)
      (h.joins join hjoin).accepted
  · exact Node.accepted_of_single rfl rfl
      (h.filter condition hfilter).accepted
  · split at horder
    · cases horder
    · obtain rfl := List.mem_singleton.mp horder
      exact Node.accepted_of_map rfl rfl fun field hfield =>
        Node.accepted_of_single rfl rfl (h.order field hfield).accepted

theorem checkShapes_eq_ok {select : Select}
    (h : select.PartsMadeOf Expr.Converted)
    (hsubs : ∀ sub ∈ select.subSelects, sub.Obtainable) :
    (Node.select select).checkShapes = .ok () := by
  rw [Node.checkShapes_eq_ok_iff]
  exact ⟨rfl, fun child hmem => h.accepted_of_mem_children hmem fun sub hsub =>
    hsubs sub (subSelects_subset_of_mem_children hmem hsub)⟩

end Select.PartsMadeOf

namespace Draft

variable {given : Expr → Prop}

theorem madeOf_combine {conjunction : Condition → Condition → Condition}
    (hconjunction : ∀ {left right : Condition}, left.MadeOf given →
      right.MadeOf given → (conjunction left right).MadeOf given)
    {old : Option Condition} {new : Condition}
    (hold : ∀ condition ∈ old, condition.MadeOf given)
    (hnew : new.MadeOf given) : (combine conjunction old new).MadeOf given := by
  cases old with
  | none => exact hnew
  | some old => exact hconjunction (hold old rfl) hnew

theorem partsMadeOf_add {draft : Draft} {step : Step}
    (h : draft.select.PartsMadeOf given) (hstep : step.MadeOf given) :
    (draft.add step).select.PartsMadeOf given := by
  have hfilter : ∀ condition : Condition, condition.MadeOf given →
      ∀ new ∈ some condition, new.MadeOf given := by
    rintro condition hmade _ ⟨⟩
    exact hmade
  cases step with
  | join kind table on =>
      have hjoins : ∀ join ∈ draft.joins ++ [⟨kind, table, on⟩],
          join.on.MadeOf given := by
        intro join hmem
        rcases List.mem_append.mp hmem with hmem | hmem
        · exact h.joins join hmem
        · obtain rfl := List.mem_singleton.mp hmem
          exact hstep
      rw [add_join]
      exact { h with joins := hjoins }
  | filter condition => exact { h with filter := hfilter _ hstep }
  | and condition =>
      exact { h with filter := hfilter _ (madeOf_combine .and h.filter hstep) }
  | or condition =>
      exact { h with filter := hfilter _ (madeOf_combine .or h.filter hstep) }
  | order fields =>
      have horder : ∀ field ∈ draft.order ++ fields, field.expr.MadeOf given :=
        fun field hmem => (List.mem_append.mp hmem).elim (h.order field)
          (hstep field)
      exact { h with order := horder }
  | limit count | offset count | distinct => exact { h with }

theorem partsMadeOf_addAll {draft : Draft} {steps : List Step}
    (h : draft.select.PartsMadeOf given)
    (hsteps : ∀ step ∈ steps, step.MadeOf given) :
    (draft.addAll steps).select.PartsMadeOf given := by
  induction steps generalizing draft with
  | nil => exact h
  | cons step steps ih =>
      rw [List.forall_mem_cons] at hsteps
      exact ih (partsMadeOf_add h hsteps.1) hsteps.2

theorem partsMadeOf_startAfter (early : ℕ) {items : List Expr}
    (tables : List Table) (h : ∀ item ∈ items, item.MadeOf given) :
    (startAfter early items tables).select.PartsMadeOf given := by
  rw [startAfter_eq]
  constructor
  case items => exact h
  case joins => exact List.forall_mem_nil _
  case filter =>
    intro condition hmem
    cases hmem
  case order => exact List.forall_mem_nil _

theorem checkImports_ne_invalidArgument (select : Select)
    (cause : InvalidArgument) :
    select.checkImports ≠ .error (.invalidArgument cause) := by
  rw [select.checkImports_eq]
  unfold Imports.finish
  split <;> simp

theorem build_ne_invalidArgument {draft : Draft}
    (hitems : draft.items ≠ []) (htables : draft.tables ≠ [])
    (hshapes : (Node.select draft.select).checkShapes = .ok ())
    (cause : InvalidArgument) :
    draft.build ≠ .error (.invalidArgument cause) := by
  have himports := checkImports_ne_invalidArgument draft.select cause
  have hitems : draft.select.items.isEmpty = false :=
    List.isEmpty_eq_false_iff.mpr hitems
  have htables : draft.select.tables.isEmpty = false :=
    List.isEmpty_eq_false_iff.mpr htables
  have hcheck : draft.select.check = draft.select.checkImports := by
    rw [Select.check, hshapes, hitems, htables]
    rfl
  rw [build_eq_map_check, hcheck]
  cases hcase : draft.select.checkImports with
  | error missing =>
      rw [hcase] at himports
      exact fun h => himports (congrArg Except.error (Except.error.inj h))
  | ok => simp [Except.map]

theorem build_made_ne_invalidArgument {early : ℕ} {items : List Expr}
    {tables : List Table} {steps : List Step} (hitems : items ≠ [])
    (htables : tables ≠ []) (hmade : ∀ item ∈ items, item.Made)
    (hsteps : ∀ step ∈ steps, step.Made)
    (hinputs : ∀ sub ∈ inputSubSelects items steps, sub.Obtainable)
    (cause : InvalidArgument) :
    ((startAfter early items tables).addAll steps).build ≠
      .error (.invalidArgument cause) := by
  have hparts :=
    partsMadeOf_addAll (partsMadeOf_startAfter early tables hmade) hsteps
  have hsubs : ∀ sub ∈ ((startAfter early items tables).addAll
      steps).select.subSelects, sub.Obtainable := fun sub hsub =>
    hinputs sub (mem_inputSubSelects_addAll hsub)
  apply build_ne_invalidArgument
  · rw [addAll_eq, startAfter_eq]
    exact hitems
  · rw [addAll_eq, startAfter_eq]
    exact htables
  · exact hparts.checkShapes_eq_ok hsubs

end Draft

end SqlStatement
