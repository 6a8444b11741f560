import SqlStatement.Error
import SqlStatement.Walk

/-!
# Imported tables

A statement imports the tables of its FROM and its JOINs, and it has to import
every table that a column of its select list, its WHERE or its ORDER BY refers
to, and every table of which its select list takes all columns.  A statement in
parentheses is a scope of its own: it neither imports tables for the statement
around it nor asks it for any.

The collector follows the events of a walk.  It takes any sequence of events,
also one that leaves more than it entered.
-/

namespace SqlStatement

/-- The clause a collector is in. -/
inductive Region where
  | fromClause
  | joinClause
  | requiring (clause : Clause)
deriving DecidableEq

/-- What was collected of one statement: the names it imports and, with their
clauses, the names it requires. -/
structure Imports where
  /-- How many statements were entered and not left. -/
  depth : Nat
  region : Option Region
  fromNames : List Identifier
  joinNames : List Identifier
  required : List (Clause × Identifier)

namespace Imports

def empty : Imports :=
  ⟨0, none, [], [], []⟩

/-- The table that a part of `clause` requires. -/
def requirement? (clause : Clause) : Expr → Option Table
  | .column column => some column.table
  | .asterisk (some table) =>
      if clause = .selectColumn then some table else none
  | _ => none

def addRequirement (imports : Imports) (clause : Clause) (table : Table) :
    Imports :=
  { imports with
    required := imports.required ++ [(clause, table.reference)] }

def importTable (imports : Imports) (table : Table) : Imports :=
  match imports.region with
  | some .fromClause =>
      { imports with fromNames := imports.fromNames ++ [table.reference] }
  | some .joinClause =>
      { imports with joinNames := imports.joinNames ++ [table.reference] }
  | _ => imports

def requireExpr (imports : Imports) (expr : Expr) : Imports :=
  match imports.region with
  | some (.requiring clause) =>
      match requirement? clause expr with
      | some table => imports.addRequirement clause table
      | none => imports
  | _ => imports

/-- The region that begins with a node. -/
def regionOf? : Node → Option Region
  | .items _ => some (.requiring .selectColumn)
  | .tables _ => some .fromClause
  | .join _ => some .joinClause
  | .filter _ => some (.requiring .wherePredicate)
  | .order _ => some (.requiring .orderByColumn)
  | _ => none

/-- Entering a node inside of exactly one statement. -/
def enterInner (imports : Imports) (node : Node) : Imports :=
  match regionOf? node with
  | some region => { imports with region := some region }
  | none =>
      match node with
      | .table table => imports.importTable table
      | .expr expr => imports.requireExpr expr
      | _ => imports

def enter (imports : Imports) : Node → Except Error Imports
  | .select _ => .ok { imports with depth := imports.depth + 1 }
  | node =>
      if imports.depth = 1 then .ok (imports.enterInner node)
      else .ok imports

def leave (imports : Imports) : Node → Except Error Imports
  | .select _ => .ok { imports with depth := imports.depth - 1 }
  | node =>
      if imports.depth = 1 ∧ (regionOf? node).isSome then
        .ok { imports with region := none }
      else .ok imports

def step (imports : Imports) : Event → Except Error Imports
  | .enter node => imports.enter node
  | .leave node => imports.leave node

/-- The collector as a visitor, which is free to end a walk with an error. -/
def collect (event : Event) : ExceptT Error (StateM Imports) Unit := do
  set (← (← get).step event)

/-- The collector after a walk through `node`. -/
def walk (imports : Imports) (node : Node) : Except Error Imports :=
  let (result, reached) := ((node.walk collect).run.run imports).run
  result.map fun _ => reached

def isImported (imports : Imports) (name : Identifier) : Bool :=
  imports.fromNames.contains name || imports.joinNames.contains name

/-- The first requirement that is not imported is an error. -/
def finish (imports : Imports) : Except Error Unit :=
  match imports.required.find? fun (_, name) => !imports.isImported name with
  | none => .ok ()
  | some (clause, missing) =>
      .error (.missingImport
        ⟨clause, missing, imports.fromNames, imports.joinNames⟩)

end Imports

/-- The check of a statement's own scope. -/
def Select.checkImports (select : Select) : Except Error Unit := do
  (← Imports.empty.walk (.select select)).finish

end SqlStatement
