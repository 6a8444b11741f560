import SqlStatement.Layout
import SqlStatement.Node

/-!
# Writers

A statement is written while it is walked through.  Each construct has a writer
of its own, which begins when the walk enters the construct.  Of the nodes below
it, a writer writes some itself and hands each of the others to a new writer,
whose text it receives when that one is done.  When the walk leaves the
construct, the writer finishes its text.

A writer that meets a node it is not made for fails with an internal error.
-/

namespace SqlStatement

/-- The clause from which the writer of a statement expects the next text. -/
inductive Section where
  | items
  | tables
  | join
  | filter
  | order

structure Clauses where
  distinct : Bool
  limit : Option UInt64
  offset : Option UInt64
  current : Option Section
  items : String
  tables : String
  joins : List String
  filter : Option String
  order : Option String

namespace Clauses

def empty : Clauses :=
  ⟨false, none, none, none, "", "", [], none, none⟩

/-- The text of a clause goes where it is expected. -/
def put (clauses : Clauses) (part : String) : Clauses :=
  let received := { clauses with current := none }
  match clauses.current with
  | some .items => { received with items := part }
  | some .tables => { received with tables := part }
  | some .join => { received with joins := clauses.joins ++ [part] }
  | some .filter => { received with filter := some part }
  | some .order => { received with order := some part }
  | none => received

/-- The ORDER BY and the paging in the order of the dialect. -/
def sections (clauses : Clauses) (dialect : Dialect) : List String :=
  let paging := dialect.paging clauses.limit clauses.offset
  let order := match clauses.order, paging with
    | some order, _ => some order
    | none, some _ => dialect.pagingOrder
    | none, none => none
  let sections := match dialect.position with
    | .afterWhere => [paging, order]
    | .afterOrderBy => [order, paging]
  sections.filterMap id

def text (clauses : Clauses) (dialect : Dialect) : String :=
  let start := "SELECT " ++ (if clauses.distinct then "DISTINCT " else "") ++
    clauses.items ++ " " ++ clauses.tables
  (clauses.joins ++ clauses.filter.toList ++ clauses.sections dialect).foldl
    (fun sql part => sql ++ " " ++ part) start

end Clauses

inductive Conjunction where
  | and
  | or
deriving DecidableEq

def Conjunction.of? : Condition → Option Conjunction
  | .and _ _ => some and
  | .or _ _ => some or
  | _ => none

/-- The constructs that have a writer, with what the writer has gathered. -/
inductive Task where
  | select (clauses : Clauses)
  | items (parts : List String)
  | tables (parts : List String)
  | join (kind : JoinKind) (table : String) (on : Option String)
  | filter
  | order (field : Option OrderField) (parts : List String)
  | expr (isSubSelect : Bool)
  | function (name : String) (args : List String)
  | condition
  | operands (separator buffer : String) (count : Nat)
  | inList (negated isLone : Bool) (parts : List String)
  | isNull (negated : Bool) (operand : Option String)
  | nested
  | conjunction (separator : String) (conjunction : Option Conjunction)
      (wrapNext : Bool) (parts : List String)
  | not (wrap : Bool)

structure Writer where
  task : Task
  text? : Option String

/-- What follows after a writer was shown that a node is entered or left. -/
inductive Delegation where
  | retain
  | delegate (writer : Writer)
  | leave

/-- A dispatcher may hand its own node to another writer, which may not do the
same. -/
def Writer.rank (writer : Writer) : Nat :=
  match writer.task with
  | .expr _ => 1
  | .condition => 1
  | _ => 0

namespace Writer

def start (task : Task) : Writer :=
  ⟨task, none⟩

def noWriter (node : Node) : Error :=
  .internal ("no renderer for node kind " ++ node.kind)

/-! ## Beginning -/

def beginExpr (style : Style) (writer : Writer) : Expr → Writer × Delegation
  | .column column =>
      ({ writer with text? := some (style.column column) }, .retain)
  | .raw text => ({ writer with text? := some text }, .retain)
  | .asterisk none => ({ writer with text? := some "*" }, .retain)
  | .asterisk (some table) =>
      ({ writer with text? := some (style.identifier table.reference ++ ".*") },
        .retain)
  | .literal value => ({ writer with text? := some value.sql }, .retain)
  | .bind none => ({ writer with text? := some "?" }, .retain)
  | .bind (some name) =>
      ({ writer with text? := some (":" ++ name.name) }, .retain)
  | .function _ _ => (writer, .delegate (start (.function "" [])))
  | .subSelect _ => ({ writer with task := .expr true }, .retain)

def beginCondition (writer : Writer) : Condition → Writer × Delegation
  | .raw text => ({ writer with text? := some text }, .retain)
  | .comparison _ comparator _ =>
      (writer,
        .delegate (start (.operands (" " ++ comparator.sql ++ " ") "" 0)))
  | .like _ _ => (writer, .delegate (start (.operands " LIKE " "" 0)))
  | .inList _ _ _ => (writer, .delegate (start (.inList false false [])))
  | .isNull _ _ => (writer, .delegate (start (.isNull false none)))
  | .nested _ => (writer, .delegate (start .nested))
  | .and _ _ =>
      (writer, .delegate (start (.conjunction " AND " none false [])))
  | .or _ _ => (writer, .delegate (start (.conjunction " OR " none false [])))
  | .not _ => (writer, .delegate (start (.not false)))

/-- A writer at its own node. -/
def begin (style : Style) (writer : Writer) (node : Node) :
    Except Error (Writer × Delegation) :=
  match writer.task, node with
  | .select clauses, .select s =>
      .ok ({ writer with
        task := .select { clauses with
          distinct := s.distinct, limit := s.limit, offset := s.offset } },
        .retain)
  | .items _, .items _ => .ok (writer, .retain)
  | .tables _, .tables _ => .ok (writer, .retain)
  | .join _ table on, .join j =>
      .ok ({ writer with task := .join j.kind table on }, .retain)
  | .filter, .filter _ => .ok (writer, .retain)
  | .order _ _, .order _ => .ok (writer, .retain)
  | .expr _, .expr e => .ok (writer.beginExpr style e)
  | .function _ args, .expr (.function name _) =>
      .ok ({ writer with task := .function name args }, .retain)
  | .condition, .condition c => .ok (writer.beginCondition c)
  | .operands _ _ _, .condition (.comparison _ _ _) => .ok (writer, .retain)
  | .operands _ _ _, .condition (.like _ _) => .ok (writer, .retain)
  | .inList _ _ parts, .condition (.inList _ args negated) =>
      .ok ({ writer with
        task := .inList negated (isLoneSubSelect args) parts }, .retain)
  | .isNull _ operand, .condition (.isNull _ negated) =>
      .ok ({ writer with task := .isNull negated operand }, .retain)
  | .nested, .condition (.nested _) => .ok (writer, .retain)
  | .conjunction separator _ wrapNext parts, .condition (.and _ _) =>
      .ok ({ writer with
        task := .conjunction separator (some .and) wrapNext parts }, .retain)
  | .conjunction separator _ wrapNext parts, .condition (.or _ _) =>
      .ok ({ writer with
        task := .conjunction separator (some .or) wrapNext parts }, .retain)
  | .not _, .condition (.not _) => .ok (writer, .retain)
  | _, _ => .error (noWriter node)

/-! ## Below the own node -/

/-- The clause that a node of a statement is, and the writer of that clause. -/
def clause? : Node → Option (Section × Writer)
  | .items _ => some (.items, start (.items []))
  | .tables _ => some (.tables, start (.tables []))
  | .join _ => some (.join, start (.join .inner "" none))
  | .filter _ => some (.filter, start .filter)
  | .order _ => some (.order, start (.order none []))
  | _ => none

def exprChild (writer : Writer) : Node → Except Error (Writer × Delegation)
  | .expr _ => .ok (writer, .delegate (start (.expr false)))
  | node => .error (noWriter node)

def conditionChild (writer : Writer) : Node → Except Error (Writer × Delegation)
  | .condition _ => .ok (writer, .delegate (start .condition))
  | node => .error (noWriter node)

/-- Whether a conjunction puts a part of it in parentheses. -/
def wraps (conjunction : Option Conjunction) (part : Node) : Bool :=
  match part with
  | .condition c =>
      match Conjunction.of? c with
      | some kind => some kind != conjunction
      | none => false
  | _ => false

/-- A writer at a node below its own. -/
def meet (style : Style) (writer : Writer) (node : Node) :
    Except Error (Writer × Delegation) :=
  match writer.task with
  | .select clauses =>
      match clause? node with
      | some (sect, clauseWriter) =>
          .ok ({ writer with
            task := .select { clauses with current := some sect } },
            .delegate clauseWriter)
      | none => .error (noWriter node)
  | .items _ => writer.exprChild node
  | .tables parts =>
      match node with
      | .table t =>
          .ok ({ writer with task := .tables (parts ++ [style.table t]) },
            .retain)
      | _ => .error (noWriter node)
  | .join kind _ on =>
      match node with
      | .table t =>
          .ok ({ writer with task := .join kind (style.table t) on }, .retain)
      | _ => writer.conditionChild node
  | .filter => writer.conditionChild node
  | .order _ parts =>
      match node with
      | .orderField f =>
          .ok ({ writer with task := .order (some f) parts }, .retain)
      | _ => writer.exprChild node
  | .expr isSubSelect =>
      match node, isSubSelect with
      | .select _, true => .ok (writer, .delegate (start (.select .empty)))
      | _, _ => .error (noWriter node)
  | .function _ _ => writer.exprChild node
  | .condition => .error (noWriter node)
  | .operands _ _ _ => writer.exprChild node
  | .inList _ _ _ => writer.exprChild node
  | .isNull _ _ => writer.exprChild node
  | .nested => writer.conditionChild node
  | .conjunction separator conjunction _ parts =>
      conditionChild
        { writer with
          task := .conjunction separator conjunction (wraps conjunction node)
            parts }
        node
  | .not _ =>
      let wrap := match node with
        | .condition c => c.needsParenthesesAfterNot
        | _ => false
      conditionChild { writer with task := .not wrap } node

/-! ## The texts of others -/

/-- An ORDER BY field after its expression was written. -/
def withField (part : String) : Option OrderField → String
  | none => part
  | some field =>
      let part := match field.direction with
        | none => part
        | some direction => part ++ " " ++ direction.sql
      match field.nulls with
      | none => part
      | some nulls => part ++ " " ++ nulls.sql

def receive (writer : Writer) (part : String) : Writer :=
  match writer.task with
  | .select clauses => { writer with task := .select (clauses.put part) }
  | .items parts => { writer with task := .items (parts ++ [part]) }
  | .tables _ => writer
  | .join kind table _ => { writer with task := .join kind table (some part) }
  | .filter => { writer with text? := some ("WHERE " ++ part) }
  | .order field parts =>
      { writer with task := .order none (parts ++ [withField part field]) }
  | .expr isSubSelect =>
      { writer with
        text? := some (if isSubSelect then "(" ++ part ++ ")" else part) }
  | .function name args =>
      { writer with task := .function name (args ++ [part]) }
  | .condition => { writer with text? := some part }
  | .operands separator buffer count =>
      let buffer := if 0 < count then buffer ++ separator else buffer
      { writer with task := .operands separator (buffer ++ part) (count + 1) }
  | .inList negated isLone parts =>
      { writer with task := .inList negated isLone (parts ++ [part]) }
  | .isNull negated _ => { writer with task := .isNull negated (some part) }
  | .nested => { writer with text? := some ("(" ++ part ++ ")") }
  | .conjunction separator conjunction wrapNext parts =>
      let part := if wrapNext then "(" ++ part ++ ")" else part
      { writer with
        task := .conjunction separator conjunction false (parts ++ [part]) }
  | .not wrap =>
      { writer with
        text? := some ("NOT " ++ if wrap then "(" ++ part ++ ")" else part) }

/-! ## Finishing -/

/-- A writer when its own node is left. -/
def finish (style : Style) (writer : Writer) (node : Node) :
    Except Error Writer :=
  match writer.task with
  | .select clauses =>
      if clauses.items.isEmpty || clauses.tables.isEmpty then
        .error (.internal
          (node.kind ++ " rendered without select list or FROM"))
      else
        .ok ⟨.select { clauses with order := none },
          some (clauses.text style.dialect)⟩
  | .items parts => .ok { writer with text? := some (", ".intercalate parts) }
  | .tables parts =>
      .ok { writer with text? := some ("FROM " ++ ", ".intercalate parts) }
  | .join kind table on =>
      match on with
      | some on =>
          .ok ⟨.join kind table none,
            some (kind.sql ++ " " ++ table ++ " ON " ++ on)⟩
      | none => .error (.internal (node.kind ++ " rendered no condition"))
  | .order _ parts =>
      .ok { writer with text? := some ("ORDER BY " ++ ", ".intercalate parts) }
  | .function name args =>
      .ok { writer with
        text? := some (name ++ "(" ++ ", ".intercalate args ++ ")") }
  | .operands separator buffer count =>
      if count = 2 then
        .ok ⟨.operands separator "" count, some buffer⟩
      else
        .error (.internal
          (node.kind ++ " rendered " ++ toString count ++ " operand(s)"))
  | .inList negated isLone parts =>
      match parts with
      | left :: args =>
          let keyword := if negated then "NOT IN" else "IN"
          let args := ", ".intercalate args
          let args := if isLone then args else "(" ++ args ++ ")"
          .ok { writer with
            text? := some (left ++ " " ++ keyword ++ " " ++ args) }
      | [] => .error (.internal (node.kind ++ " rendered no operand"))
  | .isNull negated operand =>
      match operand with
      | some operand =>
          let keyword := if negated then "IS NOT NULL" else "IS NULL"
          .ok ⟨.isNull negated none, some (operand ++ " " ++ keyword)⟩
      | none => .error (.internal (node.kind ++ " rendered no operand"))
  | .conjunction separator _ _ parts =>
      .ok { writer with text? := some (separator.intercalate parts) }
  | .filter | .expr _ | .condition | .nested | .not _ => .ok writer

end Writer

end SqlStatement
