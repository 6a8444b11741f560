import SqlStatement.Proofs.Contents
import SqlStatement.Proofs.Relabelling
import Mathlib

/-!
# What names and strings can do

The skeleton of a statement is the statement with nothing in its strings and
all tables, aliases and columns named alike.  Statements with one skeleton are
rendered to texts whose lexemes differ in nothing but in what stands between
quotes and apostrophes, so that no name and no string can become a part of the
statement around it.
-/

namespace SqlStatement

/-! ## Skeletons -/

def Identifier.hidden : Identifier :=
  ⟨"_", false, by decide⟩

def Table.skeleton (table : Table) : Table :=
  ⟨.hidden, table.aliasName?.map fun _ => .hidden⟩

def Column.skeleton (column : Column) : Column :=
  ⟨column.table.skeleton, .hidden⟩

def Literal.skeleton : Literal → Literal
  | string _ => string ""
  | value => value

mutual

def Expr.skeleton : Expr → Expr
  | .column column => .column column.skeleton
  | .raw text => .raw text
  | .asterisk table => .asterisk (table.map Table.skeleton)
  | .subSelect select => .subSelect select.skeleton
  | .literal value => .literal value.skeleton
  | .bind name => .bind (name.map Identifier.bare)
  | .function name args => .function name (Expr.listSkeleton args)

def Expr.listSkeleton : List Expr → List Expr
  | [] => []
  | expr :: exprs => expr.skeleton :: Expr.listSkeleton exprs

def Condition.skeleton : Condition → Condition
  | .comparison left comparator right =>
      .comparison left.skeleton comparator right.skeleton
  | .like left right => .like left.skeleton right.skeleton
  | .inList left args negated =>
      .inList left.skeleton (Expr.listSkeleton args) negated
  | .isNull operand negated => .isNull operand.skeleton negated
  | .nested inner => .nested inner.skeleton
  | .raw text => .raw text
  | .and left right => .and left.skeleton right.skeleton
  | .or left right => .or left.skeleton right.skeleton
  | .not inner => .not inner.skeleton

def Condition.optionSkeleton : Option Condition → Option Condition
  | none => none
  | some condition => some condition.skeleton

def OrderField.skeleton : OrderField → OrderField
  | ⟨expr, direction, nulls⟩ => ⟨expr.skeleton, direction, nulls⟩

def OrderField.listSkeleton : List OrderField → List OrderField
  | [] => []
  | field :: fields => field.skeleton :: OrderField.listSkeleton fields

def Join.skeleton : Join → Join
  | ⟨kind, table, on⟩ => ⟨kind, table.skeleton, on.skeleton⟩

def Join.listSkeleton : List Join → List Join
  | [] => []
  | join :: joins => join.skeleton :: Join.listSkeleton joins

def Select.skeleton : Select → Select
  | ⟨distinct, items, tables, joins, filter, order, limit, offset⟩ =>
      ⟨distinct, Expr.listSkeleton items, tables.map Table.skeleton,
        Join.listSkeleton joins, Condition.optionSkeleton filter,
        OrderField.listSkeleton order, limit, offset⟩

end

/-! ## What is written for a skeleton -/

def Relabelling.hiding : Relabelling where
  name _ := .hidden
  marker := Identifier.bare
  literal := Literal.skeleton
  name_marker := Identifier.name_bare

mutual

theorem Expr.skeleton_eq : ∀ expr : Expr, expr.skeleton = expr.relabel .hiding
  | .column _ | .raw _ | .asterisk _ | .literal _ | .bind _ => rfl
  | .subSelect select => by
      rw [Expr.skeleton, Expr.relabel, select.skeleton_eq]
  | .function _ args => by
      rw [Expr.skeleton, Expr.relabel, Expr.listSkeleton_eq args]

theorem Expr.listSkeleton_eq : ∀ exprs : List Expr,
    Expr.listSkeleton exprs = Expr.listRelabel .hiding exprs
  | [] => rfl
  | expr :: exprs => by
      rw [Expr.listSkeleton, Expr.listRelabel, expr.skeleton_eq,
        Expr.listSkeleton_eq exprs]

theorem Condition.skeleton_eq : ∀ condition : Condition,
    condition.skeleton = condition.relabel .hiding
  | .comparison left _ right | .like left right => by
      rw [Condition.skeleton, Condition.relabel, left.skeleton_eq,
        right.skeleton_eq]
  | .inList left args _ => by
      rw [Condition.skeleton, Condition.relabel, left.skeleton_eq,
        Expr.listSkeleton_eq args]
  | .isNull operand _ => by
      rw [Condition.skeleton, Condition.relabel, operand.skeleton_eq]
  | .raw _ => rfl
  | .and left right | .or left right => by
      rw [Condition.skeleton, Condition.relabel, left.skeleton_eq,
        right.skeleton_eq]
  | .nested inner | .not inner => by
      rw [Condition.skeleton, Condition.relabel, inner.skeleton_eq]

theorem Condition.optionSkeleton_eq : ∀ filter : Option Condition,
    Condition.optionSkeleton filter = Condition.optionRelabel .hiding filter
  | none => rfl
  | some condition => by
      rw [Condition.optionSkeleton, Condition.optionRelabel,
        condition.skeleton_eq]

theorem OrderField.skeleton_eq : ∀ field : OrderField,
    field.skeleton = field.relabel .hiding
  | ⟨expr, _, _⟩ => by
      rw [OrderField.skeleton, OrderField.relabel, expr.skeleton_eq]

theorem OrderField.listSkeleton_eq : ∀ fields : List OrderField,
    OrderField.listSkeleton fields = OrderField.listRelabel .hiding fields
  | [] => rfl
  | field :: fields => by
      rw [OrderField.listSkeleton, OrderField.listRelabel, field.skeleton_eq,
        OrderField.listSkeleton_eq fields]

theorem Join.skeleton_eq : ∀ join : Join, join.skeleton = join.relabel .hiding
  | ⟨_, _, on⟩ => by
      rw [Join.skeleton, Join.relabel, on.skeleton_eq]
      rfl

theorem Join.listSkeleton_eq : ∀ joins : List Join,
    Join.listSkeleton joins = Join.listRelabel .hiding joins
  | [] => rfl
  | join :: joins => by
      rw [Join.listSkeleton, Join.listRelabel, join.skeleton_eq,
        Join.listSkeleton_eq joins]

theorem Select.skeleton_eq : ∀ select : Select,
    select.skeleton = select.relabel .hiding
  | ⟨_, items, _, joins, filter, order, _, _⟩ => by
      rw [Select.skeleton, Select.relabel, Expr.listSkeleton_eq items,
        Join.listSkeleton_eq joins, Condition.optionSkeleton_eq filter,
        OrderField.listSkeleton_eq order]
      rfl

end

def Node.skeleton : Node → Node
  | select s => select s.skeleton
  | items es => items (es.map Expr.skeleton)
  | tables ts => tables (ts.map Table.skeleton)
  | join j => join j.skeleton
  | filter c => filter c.skeleton
  | order fs => order (fs.map OrderField.skeleton)
  | orderField f => orderField f.skeleton
  | table t => table t.skeleton
  | expr e => expr e.skeleton
  | condition c => condition c.skeleton

theorem Node.skeleton_eq (node : Node) :
    node.skeleton = node.relabel .hiding := by
  cases node with
  | select s => exact congrArg select s.skeleton_eq
  | items es => exact congrArg (items <| es.map ·) (funext Expr.skeleton_eq)
  | tables ts => rfl
  | join j => exact congrArg join j.skeleton_eq
  | filter c => exact congrArg filter c.skeleton_eq
  | order fs =>
      exact congrArg (order <| fs.map ·) (funext OrderField.skeleton_eq)
  | orderField f => exact congrArg orderField f.skeleton_eq
  | table t => rfl
  | expr e => exact congrArg expr e.skeleton_eq
  | condition c => exact congrArg condition c.skeleton_eq

namespace Piece

def skeleton : Piece → Piece
  | text t => text t
  | name _ => name .hidden
  | literal value => literal value.skeleton

theorem shape_lexemes_skeleton (piece : Piece) :
    piece.skeleton.lexemes.map Lexeme.shape =
      piece.lexemes.map Lexeme.shape := by
  cases piece with
  | text text | name name => rfl
  | literal value => cases value <;> rfl

theorem shape_lexemesOf_skeleton (pieces : List Piece) :
    (lexemesOf (pieces.map skeleton)).map Lexeme.shape =
      (lexemesOf pieces).map Lexeme.shape := by
  induction pieces with
  | nil => rfl
  | cons piece pieces ih =>
      rw [List.map_cons, lexemesOf_cons, lexemesOf_cons, List.map_append,
        List.map_append, shape_lexemes_skeleton, ih]

end Piece

theorem Node.pieces_skeleton (dialect : Dialect) (node : Node) :
    node.skeleton.pieces dialect =
      (node.pieces dialect).map Piece.skeleton := by
  have hpiece : Relabelling.hiding.piece = Piece.skeleton := by
    funext piece
    cases piece <;> rfl
  rw [node.skeleton_eq, node.pieces_relabel, hpiece]

/-! ## Statements with one skeleton -/

/-- What a reader finds in the text of a statement with all names quoted. -/
def Select.Reads (select : Select) (known : Dialect.Known)
    (lexemes : List Lexeme) : Prop :=
  ∃ text, known.quotingAll.renderSelect select = .ok text ∧
    lexemes? known.dialect.quote text.toList = some lexemes

theorem names_and_strings_keep_structure (known : Dialect.Known)
    (first second : Select) (hfirst : first.Obtainable)
    (hsecond : second.Obtainable)
    (hfirstPlain : (Node.select first).Throughout Node.isPlain)
    (hsecondPlain : (Node.select second).Throughout Node.isPlain)
    (hskeleton : first.skeleton = second.skeleton) :
    ∃ firstLexemes secondLexemes,
      first.Reads known firstLexemes ∧ second.Reads known secondLexemes ∧
      firstLexemes.map Lexeme.shape = secondLexemes.map Lexeme.shape ∧
      firstLexemes.filter Lexeme.isQuoted = (Node.select first).contents ∧
      secondLexemes.filter Lexeme.isQuoted = (Node.select second).contents := by
  have hshape : ∀ select : Select,
      (Piece.lexemesOf (select.skeleton.pieces known.dialect)).map
          Lexeme.shape =
        (Piece.lexemesOf (select.pieces known.dialect)).map Lexeme.shape := by
    intro select
    have hpieces := Node.pieces_skeleton known.dialect (.select select)
    simp only [Node.skeleton, Node.pieces] at hpieces
    rw [hpieces, Piece.shape_lexemesOf_skeleton]
  have hcontents : ∀ select : Select,
      (Piece.lexemesOf (select.pieces known.dialect)).filter Lexeme.isQuoted =
        (Node.select select).contents := by
    intro select
    have hpieces := Node.contents_pieces known (.select select)
    rw [Node.pieces] at hpieces
    rw [← hpieces]
    exact Piece.quotedOf_lexemesOf _
  refine ⟨_, _, hfirst.lexemes?_render hfirstPlain known,
    hsecond.lexemes?_render hsecondPlain known, ?_, hcontents first,
    hcontents second⟩
  rw [← hshape first, ← hshape second, hskeleton]

namespace Draft

def lookup (table : Table) (name : Identifier) (value : String) : Draft :=
  (start [.column ⟨table, name⟩] [table]).addAll
    [.filter (.comparison (.column ⟨table, name⟩) .eq
      (.literal (.string value)))]

def tame : Draft :=
  lookup orders buyer "Ann"

/-- The same with names and a string that try to get out of their quotes. -/
def hostile : Draft :=
  lookup ⟨⟨"a\"b", false, by decide⟩, some ⟨"\"", true, by decide⟩⟩
    ⟨"' OR 1=1 --", false, by decide⟩ "'; DROP TABLE \"orders\"; --'"

theorem select_lookup (table : Table) (name : Identifier) (value : String) :
    (lookup table name value).select =
      ⟨false, [.column ⟨table, name⟩], [table], [],
        some (.comparison (.column ⟨table, name⟩) .eq
          (.literal (.string value))), [], none, none⟩ :=
  rfl

theorem lookup_obtainable {table : Table} {name : Identifier} {value : String}
    (hcheck : (lookup table name value).select.check = .ok ()) :
    (lookup table name value).select.Obtainable :=
  Select.obtainable_of_check (List.forall_mem_nil _) hcheck

theorem lookup_plain (table : Table) (name : Identifier) (value : String) :
    (Node.select (lookup table name value).select).Throughout Node.isPlain := by
  intro node hnode
  simp [select_lookup, Node.nodes_eq, Node.children, Node.childrenOfCondition,
    Node.childrenOfExpr] at hnode
  rcases hnode with rfl | rfl | rfl | rfl | rfl | rfl | rfl | rfl | rfl
  all_goals rfl

theorem contents_lookup (table : Table) (name : Identifier) (value : String) :
    (Node.select (lookup table name value).select).contents =
      [.name table.reference.name, .name name.name] ++
        (Node.table table).ownContents ++
        [.name table.reference.name, .name name.name, .string value] := by
  simp [select_lookup, Node.contents_eq, Node.children,
    Node.childrenOfCondition, Node.childrenOfExpr, Node.ownContents]

end Draft

theorem hostile_keeps_structure :
    Draft.tame.select.Obtainable ∧ Draft.hostile.select.Obtainable ∧
      (Node.select Draft.tame.select).Throughout Node.isPlain ∧
      (Node.select Draft.hostile.select).Throughout Node.isPlain ∧
      Draft.tame.select.skeleton = Draft.hostile.select.skeleton ∧
      ∃ tameLexemes hostileLexemes,
        Draft.tame.select.Reads .postgres tameLexemes ∧
        Draft.hostile.select.Reads .postgres hostileLexemes ∧
        tameLexemes.map Lexeme.shape = hostileLexemes.map Lexeme.shape ∧
        tameLexemes.filter Lexeme.isQuoted =
          [.name "o", .name "buyer", .name "orders", .name "o", .name "o",
            .name "buyer", .string "Ann"] ∧
        hostileLexemes.filter Lexeme.isQuoted =
          [.name "\"", .name "' OR 1=1 --", .name "a\"b", .name "\"",
            .name "\"", .name "' OR 1=1 --",
            .string "'; DROP TABLE \"orders\"; --'"] := by
  have htame : Draft.tame.select.Obtainable :=
    Draft.lookup_obtainable (by cbv)
  have hhostile : Draft.hostile.select.Obtainable :=
    Draft.lookup_obtainable (by cbv)
  have htamePlain : (Node.select Draft.tame.select).Throughout Node.isPlain :=
    Draft.lookup_plain _ _ _
  have hhostilePlain :
      (Node.select Draft.hostile.select).Throughout Node.isPlain :=
    Draft.lookup_plain _ _ _
  obtain ⟨tameLexemes, hostileLexemes, htameReads, hhostileReads, hshape,
    htameContents, hhostileContents⟩ :=
    names_and_strings_keep_structure .postgres Draft.tame.select
      Draft.hostile.select htame hhostile htamePlain hhostilePlain rfl
  refine ⟨htame, hhostile, htamePlain, hhostilePlain, rfl, tameLexemes,
    hostileLexemes, htameReads, hhostileReads, hshape, ?_, ?_⟩
  · exact htameContents.trans (Draft.contents_lookup _ _ _)
  · exact hhostileContents.trans (Draft.contents_lookup _ _ _)

end SqlStatement
