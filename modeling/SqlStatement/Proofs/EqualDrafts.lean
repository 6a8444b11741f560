import SqlStatement.Error.Equality
import SqlStatement.Proofs.Canonical
import SqlStatement.Proofs.ClosedScope
import SqlStatement.Proofs.FirstFault
import SqlStatement.Proofs.ImportCheck
import SqlStatement.Proofs.Rebuild
import Mathlib.Tactic

/-!
# Drafts that are equal

The checks of a draft see no more of it than equality does.  A walk through a
canonical form shows the same nodes in the same order, each in its canonical
form, the shape of a node is that of its canonical form, and what the collector
has collected it has collected with canonical names.  So building and bringing
into canonical form can be exchanged, and drafts whose parts are equal have
equal results.

What was built equals itself, since the shape check lets no float pass that is
no number.
-/

namespace SqlStatement

/-! ## Walks through canonical forms -/

namespace Node

def canonical : Node → Node
  | select s => select s.canonical
  | items es => items (es.map Expr.canonical)
  | tables ts => tables (ts.map Table.canonical)
  | join j => join j.canonical
  | filter c => filter c.canonical
  | order fs => order (fs.map OrderField.canonical)
  | orderField f => orderField f.canonical
  | table t => table t.canonical
  | expr e => expr e.canonical
  | condition c => condition c.canonical

theorem children_canonical (node : Node) :
    node.canonical.children = node.children.map canonical := by
  cases node with
  | select s =>
      obtain ⟨distinct, items, tables, joins, filter, order, limit, offset⟩ := s
      cases filter <;> cases order <;>
        simp [canonical, children, Select.canonical, Expr.listCanonical_eq_map,
          Join.listCanonical_eq_map, OrderField.listCanonical_eq_map,
          Condition.optionCanonical]
  | items es | tables ts | order fs => simp [canonical, children]
  | filter c | table t => rfl
  | join j => cases j; rfl
  | orderField f => cases f; rfl
  | expr e =>
      cases e <;>
        simp [canonical, children, childrenOfExpr, Expr.canonical,
          Expr.listCanonical_eq_map]
  | condition c =>
      cases c <;>
        simp [canonical, children, childrenOfCondition, Condition.canonical,
          Expr.listCanonical_eq_map]

end Node

def Event.canonical : Event → Event
  | enter node => enter node.canonical
  | leave node => leave node.canonical

namespace Node

theorem events_canonical (node : Node) :
    node.canonical.events = node.events.map Event.canonical := by
  induction node using Node.inductionOn with
  | step node ih =>
      have hchildren :
          node.children.flatMap (fun child => child.canonical.events) =
            node.children.flatMap fun child =>
              child.events.map Event.canonical :=
        List.flatMap_congr ih
      rw [events_eq, events_eq, children_canonical, List.flatMap_map, hchildren]
      simp [List.map_flatMap, Event.canonical]

/-! ## The shape check -/

theorem checkShape_canonical (node : Node) :
    node.canonical.checkShape = node.checkShape := by
  cases node with
  | expr e =>
      cases e with
      | literal value =>
          cases value with
          | float value =>
              change require value.canonical.isFinite _ =
                require value.isFinite _
              rw [value.isFinite_canonical]
              cases hfinite : value.isFinite with
              | true => rfl
              | false => rw [Binary64.canonical_eq_self hfinite]
          | _ => rfl
      | _ => rfl
  | condition c =>
      cases c with
      | inList left args negated => cases args <;> rfl
      | _ => rfl
  | _ => rfl

theorem checkShapes_canonical (node : Node) :
    node.canonical.checkShapes = node.checkShapes := by
  unfold checkShapes
  rw [walk_eq_forM_events, walk_eq_forM_events, events_canonical]
  simp only [List.forM_eq_forM, List.forM_map]
  congr 1
  funext event
  cases event with
  | enter node => exact node.checkShape_canonical
  | leave node => rfl

end Node

/-! ## The import check -/

def MissingImport.canonical (cause : MissingImport) : MissingImport :=
  ⟨cause.clause, cause.missing.bare, cause.fromNames.map Identifier.bare,
    cause.joinNames.map Identifier.bare⟩

def Error.canonical : Error → Error
  | missingImport cause => missingImport cause.canonical
  | cause => cause

namespace Imports

def canonical (imports : Imports) : Imports :=
  { imports with
    fromNames := imports.fromNames.map Identifier.bare
    joinNames := imports.joinNames.map Identifier.bare
    required := imports.required.map fun (clause, name) => (clause, name.bare) }

theorem importTable_canonical (imports : Imports) (table : Table) :
    (imports.importTable table).canonical =
      imports.canonical.importTable table.canonical := by
  obtain ⟨depth, region, fromNames, joinNames, required⟩ := imports
  rcases region with _ | _ | _ | _ <;>
    simp [importTable, canonical, table.reference_canonical]

theorem addRequirement_canonical (imports : Imports) (clause : Clause)
    (table : Table) :
    (imports.addRequirement clause table).canonical =
      imports.canonical.addRequirement clause table.canonical := by
  simp [addRequirement, canonical, table.reference_canonical]

theorem requirement?_canonical (clause : Clause) (expr : Expr) :
    requirement? clause expr.canonical =
      (requirement? clause expr).map Table.canonical := by
  cases expr with
  | asterisk table =>
      cases table with
      | none => rfl
      | some table => cases clause <;> rfl
  | _ => rfl

theorem requireExpr_canonical (imports : Imports) (expr : Expr) :
    (imports.requireExpr expr).canonical =
      imports.canonical.requireExpr expr.canonical := by
  have hregion : imports.canonical.region = imports.region := rfl
  unfold requireExpr
  rw [hregion]
  rcases imports.region with _ | _ | _ | clause
  · rfl
  · rfl
  · rfl
  · simp only [requirement?_canonical]
    cases requirement? clause expr with
    | none => rfl
    | some table => exact imports.addRequirement_canonical clause table

theorem enterInner_canonical (imports : Imports) (node : Node) :
    (imports.enterInner node).canonical =
      imports.canonical.enterInner node.canonical := by
  cases node with
  | table table => exact imports.importTable_canonical table
  | expr expr => exact imports.requireExpr_canonical expr
  | _ => rfl

theorem enter_canonical (imports : Imports) (node : Node) :
    (imports.enter node).map canonical =
      imports.canonical.enter node.canonical := by
  cases node with
  | select select => rfl
  | _ =>
      refine (apply_ite (Except.map canonical) _ _ _).trans ?_
      simp only [Except.map, enterInner_canonical]
      rfl

theorem leave_canonical (imports : Imports) (node : Node) :
    (imports.leave node).map canonical =
      imports.canonical.leave node.canonical := by
  cases node with
  | select select => rfl
  | _ => exact apply_ite (Except.map canonical) _ _ _

theorem step_canonical (imports : Imports) (event : Event) :
    (imports.step event).map canonical =
      imports.canonical.step event.canonical := by
  cases event with
  | enter node => exact imports.enter_canonical node
  | leave node => exact imports.leave_canonical node

theorem foldlM_step_canonical (events : List Event) (imports : Imports) :
    (events.foldlM step imports).map canonical =
      (events.map Event.canonical).foldlM step imports.canonical := by
  induction events generalizing imports with
  | nil => rfl
  | cons event events ih =>
      rw [List.map_cons, List.foldlM_cons, List.foldlM_cons, ← step_canonical]
      cases imports.step event with
      | error cause => rfl
      | ok next => exact ih next

theorem walk_canonical (imports : Imports) (node : Node) :
    (imports.walk node).map canonical =
      imports.canonical.walk node.canonical := by
  rw [walk_eq_foldlM_events, walk_eq_foldlM_events, node.events_canonical]
  exact foldlM_step_canonical node.events imports

theorem isImported_canonical (imports : Imports) (name : Identifier) :
    imports.canonical.isImported name.bare = imports.isImported name := by
  rw [Bool.eq_iff_iff, isImported_eq_true_iff, isImported_eq_true_iff]
  simp [canonical, Identifier.bare, or_and_right, exists_or]

theorem finish_canonical (imports : Imports) :
    imports.canonical.finish = imports.finish.mapError Error.canonical := by
  have hmissing : imports.canonical.required.find?
        (fun (_, name) => !imports.canonical.isImported name) =
      (imports.required.find? fun (_, name) => !imports.isImported name).map
        fun (clause, name) => (clause, name.bare) := by
    rw [canonical, List.find?_map]
    congr 2
    funext requirement
    exact congrArg Bool.not (imports.isImported_canonical requirement.2)
  unfold finish
  rw [hmissing]
  cases imports.required.find? fun (_, name) => !imports.isImported name <;> rfl

end Imports

theorem Select.checkImports_canonical (select : Select) :
    select.canonical.checkImports =
      select.checkImports.mapError Error.canonical := by
  have hreached := @Imports.walk_select select .empty rfl
  have hwalk := Imports.empty.walk_canonical (.select select)
  rw [hreached] at hwalk
  rw [checkImports, checkImports, hreached]
  exact (congrArg (· >>= Imports.finish) hwalk.symm).trans
    (Imports.finish_canonical _)

/-! ## Results -/

namespace Error

theorem message_canonical (cause : Error) :
    cause.canonical.message = cause.message := by
  have hnames : ∀ names : List Identifier,
      (names.map Identifier.bare).map (·.name) = names.map (·.name) := by
    intro names
    simp [Identifier.bare]
  cases cause with
  | missingImport cause =>
      change cause.canonical.message = cause.message
      unfold MissingImport.message MissingImport.canonical
      dsimp only
      rw [hnames, hnames, Identifier.name_bare]
  | _ => rfl

theorem beq_of_canonical_eq {first second : Error}
    (h : first.canonical = second.canonical) : (first == second) = true := by
  have hnames : ∀ names names' : List Identifier,
      names.map Identifier.bare = names'.map Identifier.bare →
        (names == names') = true := by
    intro names names' heq
    have hkey : EqualByKey (List.map Identifier.bare) names :=
      EqualByKey.list fun name _ => name.equalByKey
    exact (hkey names').mpr ⟨BEq.rfl, BEq.rfl, heq⟩
  change Error.beq first second = true
  cases first <;> cases second <;>
    simp only [canonical, reduceCtorEq, missingImport.injEq,
      invalidArgument.injEq, internal.injEq, unsupported.injEq] at h
  case missingImport first second =>
    obtain ⟨clause, missing, fromNames, joinNames⟩ := first
    obtain ⟨clause', missing', fromNames', joinNames'⟩ := second
    simp only [MissingImport.canonical, MissingImport.mk.injEq] at h
    obtain ⟨rfl, hmissing, hfrom, hjoin⟩ := h
    change (clause == clause && missing == missing' &&
      fromNames == fromNames' && joinNames == joinNames') = true
    rw [hnames _ _ hfrom, hnames _ _ hjoin,
      (missing.beq_iff_bare missing').mpr hmissing, beq_self_eq_true]
    rfl
  all_goals
    subst h
    exact BEq.rfl

end Error

theorem Select.check_canonical (select : Select) :
    select.canonical.check = select.check.mapError Error.canonical := by
  have hshapes : (Node.select select.canonical).checkShapes =
      (Node.select select).checkShapes :=
    Node.checkShapes_canonical (.select select)
  have hitems : select.canonical.items.isEmpty = select.items.isEmpty := by
    cases select
    simp [canonical, Expr.listCanonical_eq_map]
  have htables : select.canonical.tables.isEmpty = select.tables.isEmpty := by
    cases select
    simp [canonical]
  unfold check
  rw [hitems, htables, hshapes, checkImports_canonical,
    Node.checkShapes_eq_reportFault]
  cases select.items.isEmpty
  · cases select.tables.isEmpty
    · cases (Node.select select).preorder.findSome? Node.fault? <;> rfl
    · rfl
  · rfl

namespace Draft

/-- Drafts whose parts are equal one by one. -/
structure Agrees (first second : Draft) : Prop where
  distinct : first.distinct = second.distinct
  items : (first.items == second.items) = true
  tables : (first.tables == second.tables) = true
  joins : (first.joins == second.joins) = true
  filter : (first.filter == second.filter) = true
  order : (first.order == second.order) = true
  limit : first.limit = second.limit
  offset : first.offset = second.offset

theorem Agrees.select {first second : Draft} (h : first.Agrees second) :
    (first.select == second.select) = true := by
  rw [Select.beq_eq]
  simp only [Draft.select, h.distinct, h.items, h.tables, h.joins, h.filter,
    h.order, h.limit, h.offset]
  simp

theorem Agrees.check {first second : Draft} (h : first.Agrees second) :
    first.select.check.mapError Error.canonical =
      second.select.check.mapError Error.canonical := by
  have hform : first.select.canonical = second.select.canonical :=
    ((first.select.equalByKey second.select).mp h.select).2.2
  rw [← first.select.check_canonical, ← second.select.check_canonical, hform]

end Draft

/-! ## What equals itself -/

theorem Node.beq_self_of_checkShapes (node : Node)
    (h : node.checkShapes = .ok ()) :
    ∀ select, node.Reaches (.select select) → (select == select) = true := by
  induction node using Node.inductionOn with
  | step node ih =>
      intro select hreaches
      cases hreaches with
      | child hmem hchild =>
          exact ih _ hmem (((checkShapes_eq_ok_iff node).mp h).2 _ hmem) select
            hchild
      | self =>
          apply select.beq_self
          intro inner hinner
          have hexpr := select.reaches_of_mem_scope inner hinner
          refine ⟨inner.checkShape_eq_ok_iff.mp (hexpr.checkShape_eq_ok h), ?_⟩
          rintro sub rfl
          cases hexpr with
          | child hmem hchild =>
              exact ih _ hmem (((checkShapes_eq_ok_iff _).mp h).2 _ hmem) sub
                (hchild.trans (.child List.mem_cons_self (.self _)))

theorem Node.selfEqual_of_checkShapes {node : Node}
    (h : node.checkShapes = .ok ()) {expr : Expr}
    (hreaches : node.Reaches (.expr expr)) : expr.SelfEqual := by
  refine ⟨expr.checkShape_eq_ok_iff.mp (hreaches.checkShape_eq_ok h), ?_⟩
  rintro select rfl
  exact node.beq_self_of_checkShapes h select
    (hreaches.trans (.child List.mem_cons_self (.self _)))

/-! ## The law -/

theorem eq_or_of_mapError_eq {f : ε → ε'} {first second : Except ε α}
    (h : first.mapError f = second.mapError f) :
    (∃ a, first = .ok a ∧ second = .ok a) ∨
      ∃ e e', first = .error e ∧ second = .error e' ∧ f e = f e' := by
  cases first <;> cases second <;> simp_all [Except.mapError]

/-- Drafts whose parts are equal are both built, and the statements are equal
and import what they require, or both refused with equal errors.  The equality
of statements, expressions and conditions is symmetric and transitive, and
everything in a statement that was built equals itself. -/
theorem building_respects_equality :
    (∀ first second : Draft, first.Agrees second →
      (∃ select select', first.build = .ok select ∧
        second.build = .ok select' ∧ (select == select') = true ∧
        select.checkImports = .ok () ∧ select'.checkImports = .ok ()) ∨
      ∃ cause cause', first.build = .error cause ∧
        second.build = .error cause' ∧ (cause == cause') = true ∧
        cause.message = cause'.message) ∧
    (PartialEquivBEq Select ∧ PartialEquivBEq Expr ∧
      PartialEquivBEq Condition) ∧
    ∀ (draft : Draft) (select : Select), draft.build = .ok select →
      (select == select) = true ∧
      (∀ expr, (Node.select select).Reaches (.expr expr) →
        (expr == expr) = true) ∧
      ∀ condition, (Node.select select).Reaches (.condition condition) →
        (condition == condition) = true := by
  refine ⟨?_, ⟨inferInstance, inferInstance, inferInstance⟩, ?_⟩
  · intro first second hagrees
    rcases eq_or_of_mapError_eq hagrees.check with
      ⟨_, hfirst, hsecond⟩ | ⟨cause, cause', hfirst, hsecond, hform⟩
    · have hbuild : first.build = .ok first.select := by
        rw [first.build_eq_map_check, hfirst]
        rfl
      have hbuild' : second.build = .ok second.select := by
        rw [second.build_eq_map_check, hsecond]
        rfl
      exact .inl ⟨_, _, hbuild, hbuild', hagrees.select,
        (Select.valid_of_check hfirst).imports,
        (Select.valid_of_check hsecond).imports⟩
    · have hrefused : first.build = .error cause := by
        rw [first.build_eq_map_check, hfirst]
        rfl
      have hrefused' : second.build = .error cause' := by
        rw [second.build_eq_map_check, hsecond]
        rfl
      have hmessage : cause.message = cause'.message := by
        rw [← cause.message_canonical, hform, cause'.message_canonical]
      exact .inr ⟨cause, cause', hrefused, hrefused',
        Error.beq_of_canonical_eq hform, hmessage⟩
  · intro draft select hbuild
    obtain ⟨hcheck, rfl⟩ := (draft.build_eq_ok_iff select).mp hbuild
    obtain ⟨_, _, hshapes, _⟩ := draft.select.check_eq_ok_iff.mp hcheck
    refine ⟨Node.beq_self_of_checkShapes _ hshapes _ (.self _), ?_, ?_⟩
    · intro expr hreaches
      apply expr.beq_self
      intro inner hinner
      exact Node.selfEqual_of_checkShapes hshapes
        (hreaches.trans (expr.reaches_of_mem_scope inner hinner))
    · intro condition hreaches
      apply condition.beq_self
      intro inner hinner
      exact Node.selfEqual_of_checkShapes hshapes
        (hreaches.trans (condition.reaches_of_mem_scope inner hinner))

/-- Whose orders in `table` cost `price`. -/
def Draft.ordersAt (table : Table) (price : Binary64) : Draft :=
  (start [.column ⟨table, buyer⟩] [table]).addAll
    [.filter (.comparison (.column ⟨table, ⟨"price", false, by decide⟩⟩) .eq
      (.literal (.float price)))]

/-- Another table under the same alias, in quotes, and the other zero. -/
theorem free_orders_build_alike :
    let first := Draft.ordersAt Draft.orders .zero
    let second := Draft.ordersAt
      ⟨Draft.users.name, some ⟨"o", true, by decide⟩⟩ ⟨9223372036854775808⟩
    first.Agrees second ∧
      ((∃ select select', first.build = .ok select ∧
          second.build = .ok select' ∧ (select == select') = true ∧
          select.checkImports = .ok () ∧ select'.checkImports = .ok ()) ∨
        ∃ cause cause', first.build = .error cause ∧
          second.build = .error cause' ∧ (cause == cause') = true ∧
          cause.message = cause'.message) ∧
      (first.select == first.select) = true := by
  intro first second
  have hfilter : (first.select.filter == second.select.filter) = true := by
    change Condition.beq (.comparison _ _ _) (.comparison _ _ _) = true
    rw [Condition.beq, Expr.beq, Expr.beq]
    decide
  have hagrees : first.Agrees second :=
    ⟨rfl, by cbv, by cbv, by cbv, hfilter, by cbv, rfl, rfl⟩
  have hcheck : first.select.check = .ok () := by
    rw [Select.check, Node.checkShapes_eq_reportFault, Select.checkImports_eq]
    rfl
  have hbuild : first.build = .ok first.select :=
    (first.build_eq_ok_iff _).mpr ⟨hcheck, rfl⟩
  obtain ⟨hresults, _, hself⟩ := building_respects_equality
  exact ⟨hagrees, hresults first second hagrees,
    (hself first first.select hbuild).1⟩

end SqlStatement
