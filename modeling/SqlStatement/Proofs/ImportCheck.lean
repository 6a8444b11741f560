import SqlStatement.Imports
import SqlStatement.Proofs.Scope
import SqlStatement.Proofs.TreeInduction
import Mathlib.Tactic

/-!
# What the import check computes

The collector is a state machine which sees the events of a walk one after the
other.  This file computes its state after a whole statement: it has the names
of the FROM and of the joins, and it has exactly the requirements that can be
read off the syntax, whatever stands in the statements in parentheses between
them.  The invariant behind this is that a collector which is inside of a
statement does not notice a walk through another one.
-/

namespace SqlStatement

/-! ## The requirements in the syntax -/

/-- The table that a column belongs to. -/
def Expr.columnTable? : Expr → Option Table
  | .column c => some c.table
  | _ => none

/-- The table that a column, or all columns of one table, belong to. -/
def Expr.sourceTable? : Expr → Option Table
  | .column c => some c.table
  | .asterisk table => table
  | _ => none

def inClause (clause : Clause) (tables : List Table) :
    List (Clause × Identifier) :=
  tables.map fun table => (clause, table.reference)

/-- The names a statement requires, with their clauses and in writing order:
those of all columns and of all asterisks of one table in the select list, and
those of all columns in the WHERE and in the ORDER BY. -/
def Select.required (select : Select) : List (Clause × Identifier) :=
  inClause .selectColumn
      ((select.items.flatMap Expr.scope).filterMap Expr.sourceTable?) ++
    inClause .wherePredicate
      ((select.filter.toList.flatMap Condition.scope).filterMap
        Expr.columnTable?) ++
    inClause .orderByColumn
      ((select.order.flatMap (Expr.scope ∘ OrderField.expr)).filterMap
        Expr.columnTable?)

def Select.fromNames (select : Select) : List Identifier :=
  select.tables.map Table.reference

def Select.joinNames (select : Select) : List Identifier :=
  select.joins.map (Table.reference ∘ Join.table)

/-- A name is imported when a table of FROM or JOIN goes by the same name,
quoted or not. -/
def Select.Imports (select : Select) (name : Identifier) : Prop :=
  ∃ imported ∈ select.fromNames ++ select.joinNames,
    imported.name = name.name

/-! ## The collector on a walk -/

namespace Imports

theorem run_collect (event : Event) (imports : Imports) :
    ((collect event).run.run imports).run =
      match imports.step event with
      | .ok next => (.ok (), next)
      | .error cause => (.error cause, imports) := by
  change (((liftM (imports.step event) : ExceptT Error (StateM Imports) _) >>=
    fun next => set next).run.run imports).run = _
  cases imports.step event <;> rfl

theorem walk_eq_foldlM_events (imports : Imports) (node : Node) :
    imports.walk node = node.events.foldlM step imports := by
  have hrun : ∀ (events : List Event) (imports : Imports),
      ((events.forM collect).run.run imports).run.1.map
          (fun _ => ((events.forM collect).run.run imports).run.2) =
        events.foldlM step imports := by
    intro events
    induction events with
    | nil => intro imports; rfl
    | cons event events ih =>
        intro imports
        have hcons : (event :: events).forM collect =
            (collect event >>= fun _ => events.forM collect) := rfl
        have hstep := run_collect event imports
        rw [List.foldlM_cons, hcons]
        simp only [ExceptT.run_bind, StateT.run_bind, Id.run_bind, hstep]
        cases imports.step event with
        | error cause => rfl
        | ok next => exact ih next
  unfold walk
  rw [Node.walk_eq_forM_events]
  exact hrun node.events imports

/-- A walk enters a node, walks through its children and leaves the node. -/
theorem walk_eq (imports : Imports) (node : Node) :
    imports.walk node = (imports.enter node >>= fun entered =>
      node.children.foldlM walk entered >>= fun reached =>
        reached.leave node) := by
  have hchildren : ∀ (nodes : List Node) (imports : Imports),
      (nodes.flatMap Node.events).foldlM step imports =
        nodes.foldlM walk imports := by
    intro nodes
    induction nodes with
    | nil => intro imports; rfl
    | cons node nodes ih =>
        intro imports
        rw [List.flatMap_cons, List.foldlM_append, List.foldlM_cons,
          walk_eq_foldlM_events imports node]
        exact bind_congr ih
  rw [walk_eq_foldlM_events, Node.events_eq, List.cons_append,
    List.foldlM_cons]
  refine bind_congr fun entered => ?_
  rw [List.foldlM_append, hchildren]
  refine bind_congr fun reached => ?_
  exact bind_pure (reached.leave node)

theorem walk_eq_leave {imports entered reached : Imports} {node : Node}
    (henter : imports.enter node = .ok entered)
    (hchildren : node.children.foldlM walk entered = .ok reached) :
    imports.walk node = reached.leave node := by
  rw [walk_eq, henter]
  change (node.children.foldlM walk entered >>= fun reached =>
    reached.leave node) = _
  rw [hchildren]
  rfl

theorem foldlM_walk_cons {imports next : Imports} {node : Node}
    (h : imports.walk node = .ok next) (nodes : List Node) :
    (node :: nodes).foldlM walk imports = nodes.foldlM walk next := by
  rw [List.foldlM_cons, h]
  rfl

theorem foldlM_walk_append {imports next : Imports} {before : List Node}
    (h : before.foldlM walk imports = .ok next) (after : List Node) :
    (before ++ after).foldlM walk imports = after.foldlM walk next := by
  rw [List.foldlM_append, h]
  rfl

theorem foldlM_walk_single {imports next : Imports} {node : Node}
    (h : imports.walk node = .ok next) :
    [node].foldlM walk imports = .ok next :=
  foldlM_walk_cons h []

theorem foldlM_walk_eq_self {nodes : List Node} {imports : Imports}
    (h : ∀ node ∈ nodes, imports.walk node = .ok imports) :
    nodes.foldlM walk imports = .ok imports := by
  induction nodes with
  | nil => rfl
  | cons node nodes ih =>
      rw [foldlM_walk_cons (h node List.mem_cons_self)]
      exact ih fun other hmem => h other (List.mem_cons_of_mem node hmem)

theorem enter_select (imports : Imports) (select : Select) :
    imports.enter (.select select) =
      .ok { imports with depth := imports.depth + 1 } :=
  rfl

theorem enter_eq_self {imports : Imports} {node : Node}
    (hnode : ∀ select, node ≠ .select select) (hdepth : imports.depth ≠ 1) :
    imports.enter node = .ok imports := by
  cases node with
  | select s => exact absurd rfl (hnode s)
  | _ => exact if_neg hdepth

theorem leave_eq_self {imports : Imports} {node : Node}
    (hnode : ∀ select, node ≠ .select select)
    (h : imports.depth ≠ 1 ∨ regionOf? node = none) :
    imports.leave node = .ok imports := by
  cases node with
  | select s => exact absurd rfl (hnode s)
  | _ =>
      apply if_neg
      rintro ⟨hdepth, hregion⟩
      rcases h with h | h
      · exact h hdepth
      · simp [h] at hregion

/-- What is deeper than one statement leaves no trace. -/
theorem walk_eq_self_of_two_le (node : Node) :
    ∀ imports : Imports, 2 ≤ imports.depth →
      imports.walk node = .ok imports := by
  induction node using Node.inductionOn with
  | step node ih =>
      intro imports hdepth
      by_cases hnode : ∃ select, node = .select select
      · obtain ⟨select, rfl⟩ := hnode
        refine walk_eq_leave (enter_select imports select)
          (foldlM_walk_eq_self fun child hmem => ?_)
        exact ih child hmem _ (Nat.le_succ_of_le hdepth)
      · have hother : ∀ select, node ≠ .select select :=
          fun select heq => hnode ⟨select, heq⟩
        have hchildren : node.children.foldlM walk imports = .ok imports :=
          foldlM_walk_eq_self fun child hmem => ih child hmem imports hdepth
        rw [walk_eq_leave (enter_eq_self hother (by omega)) hchildren]
        exact leave_eq_self hother (.inl (by omega))

theorem walk_select_eq_self (select : Select) (imports : Imports)
    (hdepth : 1 ≤ imports.depth) :
    imports.walk (.select select) = .ok imports := by
  refine walk_eq_leave (enter_select imports select)
    (foldlM_walk_eq_self fun child _ => ?_)
  exact walk_eq_self_of_two_le child _ (Nat.succ_le_succ hdepth)

/-! ## Inside of one statement -/

@[simp] theorem requireExpr_depth (imports : Imports) (expr : Expr) :
    (imports.requireExpr expr).depth = imports.depth := by
  unfold requireExpr
  split
  · split <;> rfl
  · rfl

@[simp] theorem foldl_requireExpr_depth (imports : Imports)
    (exprs : List Expr) :
    (exprs.foldl requireExpr imports).depth = imports.depth := by
  induction exprs generalizing imports with
  | nil => rfl
  | cons expr exprs ih => rw [List.foldl_cons, ih, requireExpr_depth]

theorem foldlM_walk_map {nodes : List α} {toNode : α → Node}
    {scope : α → List Expr}
    (h : ∀ node ∈ nodes, ∀ imports : Imports, imports.depth = 1 →
      imports.walk (toNode node) =
        .ok ((scope node).foldl requireExpr imports))
    (imports : Imports) (hdepth : imports.depth = 1) :
    (nodes.map toNode).foldlM walk imports =
      .ok ((nodes.flatMap scope).foldl requireExpr imports) := by
  induction nodes generalizing imports with
  | nil => rfl
  | cons node nodes ih =>
      rw [List.map_cons, List.flatMap_cons, List.foldl_append,
        foldlM_walk_cons (h node List.mem_cons_self imports hdepth)]
      apply ih
      · exact fun other hmem => h other (List.mem_cons_of_mem node hmem)
      · rw [foldl_requireExpr_depth, hdepth]

theorem enter_expr {imports : Imports} (hdepth : imports.depth = 1)
    (expr : Expr) :
    imports.enter (.expr expr) = .ok (imports.requireExpr expr) := by
  simp [enter, enterInner, regionOf?, hdepth]

theorem leave_expr (imports : Imports) (expr : Expr) :
    imports.leave (.expr expr) = .ok imports :=
  leave_eq_self (by simp) (.inr rfl)

/-- In its statement's scope, an expression shows the collector each
expression of its own scope once, in writing order. -/
theorem walk_expr (expr : Expr) :
    ∀ imports : Imports, imports.depth = 1 →
      imports.walk (.expr expr) =
        .ok (expr.scope.foldl requireExpr imports) := by
  induction expr using Expr.inductionOn with
  | subSelect select =>
      intro imports hdepth
      have hlater : 1 ≤ (imports.requireExpr (.subSelect select)).depth := by
        rw [requireExpr_depth, hdepth]
      rw [walk_eq_leave (enter_expr hdepth _)
        (foldlM_walk_single (walk_select_eq_self select _ hlater))]
      exact leave_expr _ _
  | function name args ih =>
      intro imports hdepth
      have hlater : (imports.requireExpr (.function name args)).depth = 1 := by
        rw [requireExpr_depth, hdepth]
      rw [walk_eq_leave (enter_expr hdepth _) (foldlM_walk_map ih _ hlater),
        leave_expr, Expr.scope, Expr.listScope_eq_flatMap, List.foldl_cons]
  | _ =>
      intro imports hdepth
      rw [walk_eq_leave (enter_expr hdepth _) rfl]
      exact leave_expr _ _

theorem enter_condition (imports : Imports) (condition : Condition) :
    imports.enter (.condition condition) = .ok imports := by
  simp [enter, enterInner, regionOf?]

theorem leave_condition (imports : Imports) (condition : Condition) :
    imports.leave (.condition condition) = .ok imports :=
  leave_eq_self (by simp) (.inr rfl)

/-- A condition itself says nothing to the collector, its parts do. -/
theorem walk_condition_of {imports reached : Imports} {condition : Condition}
    (h : (Node.condition condition).children.foldlM walk imports =
      .ok reached) :
    imports.walk (.condition condition) = .ok reached := by
  rw [walk_eq_leave (enter_condition imports condition) h, leave_condition]

theorem walk_condition (condition : Condition) :
    ∀ imports : Imports, imports.depth = 1 →
      imports.walk (.condition condition) =
        .ok (condition.scope.foldl requireExpr imports) := by
  induction condition using Condition.inductionOn with
  | comparison left comparator right | like left right =>
      intro imports hdepth
      have hright : (left.scope.foldl requireExpr imports).depth = 1 := by
        rw [foldl_requireExpr_depth, hdepth]
      rw [Condition.scope, List.foldl_append]
      apply walk_condition_of
      exact (foldlM_walk_cons (walk_expr left imports hdepth) _).trans
        (foldlM_walk_single (walk_expr right _ hright))
  | inList left args negated =>
      intro imports hdepth
      have hargs : (left.scope.foldl requireExpr imports).depth = 1 := by
        rw [foldl_requireExpr_depth, hdepth]
      rw [Condition.scope, List.foldl_append]
      apply walk_condition_of
      exact (foldlM_walk_cons (walk_expr left imports hdepth) _).trans
        (foldlM_walk_map (fun arg _ => walk_expr arg) _ hargs)
  | isNull operand negated =>
      intro imports hdepth
      exact walk_condition_of
        (foldlM_walk_single (walk_expr operand imports hdepth))
  | raw text =>
      intro imports hdepth
      exact walk_condition_of rfl
  | nested inner ih | not inner ih =>
      intro imports hdepth
      exact walk_condition_of (foldlM_walk_single (ih imports hdepth))
  | and left right ihleft ihright | or left right ihleft ihright =>
      intro imports hdepth
      have hright : (left.scope.foldl requireExpr imports).depth = 1 := by
        rw [foldl_requireExpr_depth, hdepth]
      rw [Condition.scope, List.foldl_append]
      apply walk_condition_of
      exact (foldlM_walk_cons (ihleft imports hdepth) _).trans
        (foldlM_walk_single (ihright _ hright))

theorem walk_orderField (field : OrderField) (imports : Imports)
    (hdepth : imports.depth = 1) :
    imports.walk (.orderField field) =
      .ok (field.expr.scope.foldl requireExpr imports) := by
  have henter : imports.enter (.orderField field) = .ok imports := by
    simp [enter, enterInner, regionOf?]
  rw [walk_eq_leave henter
    (foldlM_walk_single (walk_expr field.expr imports hdepth))]
  exact leave_eq_self (by simp) (.inr rfl)

/-! ## The clauses -/

def within (imports : Imports) (region : Option Region) : Imports :=
  { imports with region := region }

def importFrom (imports : Imports) (names : List Identifier) : Imports :=
  { imports with fromNames := imports.fromNames ++ names }

def importJoin (imports : Imports) (names : List Identifier) : Imports :=
  { imports with joinNames := imports.joinNames ++ names }

def requireAll (imports : Imports) (required : List (Clause × Identifier)) :
    Imports :=
  { imports with required := imports.required ++ required }

@[simp] theorem within_depth (imports : Imports) (region : Option Region) :
    (imports.within region).depth = imports.depth := rfl

@[simp] theorem importFrom_depth (imports : Imports)
    (names : List Identifier) :
    (imports.importFrom names).depth = imports.depth := rfl

@[simp] theorem importJoin_depth (imports : Imports)
    (names : List Identifier) :
    (imports.importJoin names).depth = imports.depth := rfl

@[simp] theorem requireAll_depth (imports : Imports)
    (required : List (Clause × Identifier)) :
    (imports.requireAll required).depth = imports.depth := rfl

theorem foldl_requireExpr (clause : Clause) (exprs : List Expr)
    {imports : Imports} (hregion : imports.region = some (.requiring clause)) :
    exprs.foldl requireExpr imports =
      imports.requireAll
        (inClause clause (exprs.filterMap (requirement? clause))) := by
  induction exprs generalizing imports with
  | nil => simp [requireAll, inClause]
  | cons expr exprs ih =>
      rw [List.foldl_cons]
      cases hexpr : requirement? clause expr with
      | none =>
          have hsame : imports.requireExpr expr = imports := by
            simp [requireExpr, hregion, hexpr]
          rw [hsame, ih hregion, List.filterMap_cons_none hexpr]
      | some table =>
          have hadd : imports.requireExpr expr =
              imports.addRequirement clause table := by
            simp [requireExpr, hregion, hexpr]
          have hlater : (imports.addRequirement clause table).region =
              some (.requiring clause) := hregion
          rw [hadd, ih hlater, List.filterMap_cons_some hexpr]
          simp [requireAll, inClause, addRequirement, List.append_assoc]

theorem foldl_requireExpr_joinClause (exprs : List Expr) {imports : Imports}
    (hregion : imports.region = some .joinClause) :
    exprs.foldl requireExpr imports = imports := by
  induction exprs with
  | nil => rfl
  | cons expr exprs ih =>
      have hsame : imports.requireExpr expr = imports := by
        simp [requireExpr, hregion]
      rw [List.foldl_cons, hsame, ih]

/-- At a clause of the statement whose scope the collector is in, the region
of the clause begins, its children are walked through, and the region ends. -/
theorem walk_clause {imports reached : Imports} {node : Node} {region : Region}
    (hdepth : imports.depth = 1) (hregion : regionOf? node = some region)
    (hreached : node.children.foldlM walk (imports.within (some region)) =
      .ok reached)
    (hkept : reached.depth = 1) :
    imports.walk node = .ok (reached.within none) := by
  have henter : imports.enter node = .ok (imports.within (some region)) := by
    cases node <;> simp_all [enter, enterInner, regionOf?, within]
  rw [walk_eq_leave henter hreached]
  cases node <;> simp_all [leave, regionOf?, within]

theorem walk_requiring {imports : Imports} {node : Node} {clause : Clause}
    {exprs : List Expr} (hdepth : imports.depth = 1)
    (hregion : regionOf? node = some (.requiring clause))
    (hwalk : ∀ imports : Imports, imports.depth = 1 →
      node.children.foldlM walk imports =
        .ok (exprs.foldl requireExpr imports)) :
    imports.walk node =
      .ok ((imports.requireAll
        (inClause clause (exprs.filterMap (requirement? clause)))).within
          none) := by
  have hfold := hwalk (imports.within (some (.requiring clause))) hdepth
  rw [foldl_requireExpr clause exprs rfl] at hfold
  rw [walk_clause hdepth hregion hfold hdepth]
  rfl

theorem requirement?_selectColumn :
    requirement? .selectColumn = Expr.sourceTable? := by
  funext expr
  cases expr with
  | asterisk table => cases table <;> rfl
  | _ => rfl

theorem requirement?_of_ne (clause : Clause) (h : clause ≠ .selectColumn) :
    requirement? clause = Expr.columnTable? := by
  funext expr
  cases expr with
  | asterisk table => cases table <;> simp [requirement?, h, Expr.columnTable?]
  | _ => rfl

theorem walk_items (items : List Expr) {imports : Imports}
    (hdepth : imports.depth = 1) :
    imports.walk (.items items) =
      .ok ((imports.requireAll (inClause .selectColumn
        ((items.flatMap Expr.scope).filterMap Expr.sourceTable?))).within
          none) := by
  rw [← requirement?_selectColumn]
  apply walk_requiring hdepth rfl
  exact foldlM_walk_map fun expr _ => walk_expr expr

theorem walk_filter (condition : Condition) {imports : Imports}
    (hdepth : imports.depth = 1) :
    imports.walk (.filter condition) =
      .ok ((imports.requireAll (inClause .wherePredicate
        (condition.scope.filterMap Expr.columnTable?))).within none) := by
  rw [← requirement?_of_ne .wherePredicate (by decide)]
  apply walk_requiring hdepth rfl
  exact fun imports hdepth =>
    foldlM_walk_single (walk_condition condition imports hdepth)

theorem walk_order (fields : List OrderField) {imports : Imports}
    (hdepth : imports.depth = 1) :
    imports.walk (.order fields) =
      .ok ((imports.requireAll (inClause .orderByColumn
        ((fields.flatMap (Expr.scope ∘ OrderField.expr)).filterMap
          Expr.columnTable?))).within none) := by
  rw [← requirement?_of_ne .orderByColumn (by decide)]
  apply walk_requiring hdepth rfl
  exact foldlM_walk_map fun field _ => walk_orderField field

theorem walk_table (table : Table) {imports : Imports}
    (hdepth : imports.depth = 1) :
    imports.walk (.table table) = .ok (imports.importTable table) := by
  have henter : imports.enter (.table table) =
      .ok (imports.importTable table) := by
    simp [enter, enterInner, regionOf?, hdepth]
  rw [walk_eq_leave henter rfl]
  exact leave_eq_self (by simp) (.inr rfl)

theorem foldlM_walk_tables (tables : List Table) {imports : Imports}
    (hdepth : imports.depth = 1) (hregion : imports.region = some .fromClause) :
    (tables.map Node.table).foldlM walk imports =
      .ok (imports.importFrom (tables.map Table.reference)) := by
  induction tables generalizing imports with
  | nil =>
      simp only [importFrom, List.map_nil, List.append_nil]
      rfl
  | cons table tables ih =>
      have himport : imports.importTable table =
          imports.importFrom [table.reference] := by
        simp [importTable, hregion, importFrom]
      have hlater : (imports.importFrom [table.reference]).region =
          some .fromClause := hregion
      rw [List.map_cons, foldlM_walk_cons (walk_table table hdepth), himport,
        ih (by simpa using hdepth) hlater]
      simp [importFrom, List.append_assoc]

theorem walk_tables (tables : List Table) {imports : Imports}
    (hdepth : imports.depth = 1) :
    imports.walk (.tables tables) =
      .ok ((imports.importFrom (tables.map Table.reference)).within none) := by
  have hinside : (imports.within (some .fromClause)).depth = 1 := hdepth
  have hfold : (Node.tables tables).children.foldlM walk
        (imports.within (some .fromClause)) =
      .ok ((imports.within (some .fromClause)).importFrom
        (tables.map Table.reference)) :=
    foldlM_walk_tables tables hinside rfl
  rw [walk_clause hdepth rfl hfold hdepth]
  rfl

theorem walk_join (join : Join) {imports : Imports}
    (hdepth : imports.depth = 1) :
    imports.walk (.join join) =
      .ok ((imports.importJoin [join.table.reference]).within none) := by
  have hinside : (imports.within (some .joinClause)).depth = 1 := hdepth
  have hon := walk_condition join.on
    ((imports.within (some .joinClause)).importTable join.table) hinside
  rw [foldl_requireExpr_joinClause _ rfl] at hon
  have hfold : (Node.join join).children.foldlM walk
        (imports.within (some .joinClause)) =
      .ok ((imports.within (some .joinClause)).importTable join.table) :=
    (foldlM_walk_cons (walk_table join.table hinside) _).trans
      (foldlM_walk_single hon)
  rw [walk_clause hdepth rfl hfold hdepth]
  rfl

theorem foldlM_walk_joins (joins : List Join) {imports : Imports}
    (hdepth : imports.depth = 1) (hregion : imports.region = none) :
    (joins.map Node.join).foldlM walk imports =
      .ok (imports.importJoin
        (joins.map (Table.reference ∘ Join.table))) := by
  induction joins generalizing imports with
  | nil =>
      simp only [importJoin, List.map_nil, List.append_nil]
      rfl
  | cons join joins ih =>
      have hlater :
          ((imports.importJoin [join.table.reference]).within none).depth =
            1 := hdepth
      rw [List.map_cons, foldlM_walk_cons (walk_join join hdepth),
        ih hlater rfl]
      simp [importJoin, within, hregion, List.append_assoc]

/-! ## The whole statement -/

theorem foldlM_walk_filter (filter : Option Condition) {imports : Imports}
    (hdepth : imports.depth = 1) (hregion : imports.region = none) :
    (filter.map Node.filter).toList.foldlM walk imports =
      .ok (imports.requireAll (inClause .wherePredicate
        ((filter.toList.flatMap Condition.scope).filterMap
          Expr.columnTable?))) := by
  cases filter with
  | none =>
      simp only [requireAll, inClause, Option.toList_none, List.flatMap_nil,
        List.filterMap_nil, List.map_nil, List.append_nil]
      rfl
  | some condition =>
      refine (foldlM_walk_single (walk_filter condition hdepth)).trans ?_
      simp [within, requireAll, hregion]

theorem foldlM_walk_order (fields : List OrderField) {imports : Imports}
    (hdepth : imports.depth = 1) (hregion : imports.region = none) :
    (if fields.isEmpty then [] else [Node.order fields]).foldlM walk imports =
      .ok (imports.requireAll (inClause .orderByColumn
        ((fields.flatMap (Expr.scope ∘ OrderField.expr)).filterMap
          Expr.columnTable?))) := by
  cases fields with
  | nil =>
      simp only [requireAll, inClause, List.flatMap_nil, List.filterMap_nil,
        List.map_nil, List.append_nil]
      rfl
  | cons field fields =>
      refine (foldlM_walk_single (walk_order (field :: fields) hdepth)).trans ?_
      simp [within, requireAll, hregion]

/-- Outside of all statements, a walk through a statement adds its own names
and requirements to those that are there. -/
theorem walk_select (select : Select) {imports : Imports}
    (hdepth : imports.depth = 0) :
    imports.walk (.select select) =
      .ok ((((imports.importFrom select.fromNames).importJoin
        select.joinNames).requireAll select.required).within none) := by
  have henter : imports.enter (.select select) =
      .ok { imports with depth := 1 } := by
    rw [enter_select, hdepth]
  have hchildren : (Node.select select).children.foldlM walk
        { imports with depth := 1 } =
      .ok { ((imports.importFrom select.fromNames).importJoin
        select.joinNames).requireAll select.required with
          depth := 1, region := none } := by
    simp only [Node.children, List.cons_append, List.append_assoc]
    rw [foldlM_walk_cons (walk_items select.items rfl),
      foldlM_walk_cons (walk_tables select.tables rfl),
      foldlM_walk_append (foldlM_walk_joins select.joins rfl rfl),
      foldlM_walk_append (foldlM_walk_filter select.filter rfl rfl),
      foldlM_walk_order select.order rfl rfl]
    simp [within, importFrom, importJoin, requireAll, Select.required,
      Select.fromNames, Select.joinNames, List.append_assoc]
  rw [walk_eq_leave henter hchildren]
  simp [leave, within, importFrom, importJoin, requireAll, hdepth]

theorem isImported_eq_true_iff (imports : Imports) (name : Identifier) :
    imports.isImported name = true ↔
      ∃ imported ∈ imports.fromNames ++ imports.joinNames,
        imported.name = name.name := by
  have hmem : ∀ names : List Identifier, names.contains name = true ↔
      ∃ imported ∈ names, imported.name = name.name := by
    intro names
    rw [List.contains_iff_exists_mem_beq]
    constructor
    · rintro ⟨imported, hmem, heq⟩
      exact ⟨imported, hmem, ((Identifier.beq_iff_hashKey _ _).mp heq).symm⟩
    · rintro ⟨imported, hmem, heq⟩
      exact ⟨imported, hmem, (Identifier.beq_iff_hashKey _ _).mpr heq.symm⟩
  rw [isImported, Bool.or_eq_true, hmem, hmem]
  simp only [List.mem_append, or_and_right, exists_or]

theorem finish_eq_ok_iff (imports : Imports) :
    imports.finish = .ok () ↔
      ∀ requirement ∈ imports.required,
        imports.isImported requirement.2 = true := by
  unfold finish
  cases hfind : imports.required.find? fun requirement =>
      !imports.isImported requirement.2 with
  | none => simpa [List.find?_eq_none] using hfind
  | some requirement =>
      have hmissing := List.find?_some hfind
      have hmem := List.mem_of_find?_eq_some hfind
      constructor
      · intro h
        simp at h
      · intro h
        rw [h requirement hmem] at hmissing
        simp at hmissing

theorem finish_eq_error (imports : Imports)
    (h : ∃ requirement ∈ imports.required,
      imports.isImported requirement.2 = false) :
    ∃ before clause missing after,
      imports.required = before ++ (clause, missing) :: after ∧
        (∀ requirement ∈ before,
          imports.isImported requirement.2 = true) ∧
        imports.isImported missing = false ∧
        imports.finish = .error (.missingImport
          ⟨clause, missing, imports.fromNames, imports.joinNames⟩) := by
  cases hfind : imports.required.find? fun requirement =>
      !imports.isImported requirement.2 with
  | none =>
      obtain ⟨requirement, hmem, hmissing⟩ := h
      have himported := List.find?_eq_none.mp hfind requirement hmem
      simp [hmissing] at himported
  | some requirement =>
      obtain ⟨clause, missing⟩ := requirement
      obtain ⟨hmissing, before, after, hrequired, hbefore⟩ :=
        List.find?_eq_some_iff_append.mp hfind
      refine ⟨before, clause, missing, after, hrequired, ?_, ?_, ?_⟩
      · intro requirement hmem
        simpa using hbefore requirement hmem
      · simpa using hmissing
      · unfold finish
        rw [hfind]

end Imports

theorem Select.checkImports_eq (select : Select) :
    select.checkImports =
      Imports.finish ⟨0, none, select.fromNames, select.joinNames,
        select.required⟩ := by
  rw [Select.checkImports, Imports.walk_select select rfl]
  rfl

/-- The import check accepts a statement exactly if it imports all that it
requires.  Otherwise it reports the first requirement that is not imported,
together with all names that are. -/
theorem checkImports_reports_first_unimported (select : Select) :
    (select.checkImports = .ok () ↔
      ∀ requirement ∈ select.required, select.Imports requirement.2) ∧
    ((∃ requirement ∈ select.required, ¬ select.Imports requirement.2) →
      ∃ before clause missing after,
        select.required = before ++ (clause, missing) :: after ∧
          (∀ requirement ∈ before, select.Imports requirement.2) ∧
          ¬ select.Imports missing ∧
          select.checkImports = .error (.missingImport
            ⟨clause, missing, select.fromNames, select.joinNames⟩)) := by
  have himported : ∀ name, Imports.isImported
        ⟨0, none, select.fromNames, select.joinNames, select.required⟩ name =
          true ↔ select.Imports name :=
    fun name => Imports.isImported_eq_true_iff _ name
  rw [select.checkImports_eq]
  constructor
  · rw [Imports.finish_eq_ok_iff]
    exact forall₂_congr fun requirement _ => himported requirement.2
  · simp only [← himported, Bool.not_eq_true]
    exact Imports.finish_eq_error ⟨0, none, select.fromNames,
      select.joinNames, select.required⟩

end SqlStatement
