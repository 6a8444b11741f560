import SqlStatement.Proofs.NormalForm
import Mathlib.Tactic

/-!
# The grammar of statements

The lexemes of each construct, put together from those of its parts.  A
condition is a chain of operands, and an operand is a group in parentheses, a
negation, or a leaf: an expression and what is said of it.
-/

namespace SqlStatement

namespace Lexeme

/-- The parts one after the other with `separator` between them. -/
def separated (separator : List Lexeme) : List (List Lexeme) → List Lexeme
  | [] => []
  | part :: parts => part ++ parts.flatMap (separator ++ ·)

theorem separated_append (separator : List Lexeme)
    {before after : List (List Lexeme)} (hbefore : before ≠ [])
    (hafter : after ≠ []) :
    separated separator (before ++ after) =
      separated separator before ++ separator ++ separated separator after := by
  obtain ⟨first, rest, rfl⟩ := List.exists_cons_of_ne_nil hbefore
  obtain ⟨next, more, rfl⟩ := List.exists_cons_of_ne_nil hafter
  simp [separated]

def comma : List Lexeme :=
  [.mark ',', .mark ' ']

theorem plain_of_isWord {text : String} (h : Text.isWord text = true) :
    plain text.toList = [.word text] := by
  simp only [Text.isWord, Bool.and_eq_true, Bool.not_eq_true',
    List.isEmpty_eq_false_iff, List.all_eq_true] at h
  obtain ⟨hne, hall⟩ := h
  have hplain : ∀ chars : List Char,
      (∀ c ∈ chars, Text.isWordChar c = true) →
      plain chars = chars.foldr extendWord [] := by
    intro chars hchars
    induction chars with
    | nil => rfl
    | cons c chars ih =>
        rw [List.forall_mem_cons] at hchars
        unfold plain at ih ⊢
        rw [List.foldr_cons, if_pos hchars.1, ih hchars.2, List.foldr_cons]
  rw [hplain _ hall, foldr_extendWord hne fun c => rfl, String.ofList_toList]

/-- Words with spaces between them. -/
def phrase (words : List String) : List Lexeme :=
  separated [.mark ' '] (words.map fun text => [.word text])

/-- A word does not go on where something else than a word begins. -/
theorem plain_append {before after : List Char}
    (hafter : ∀ c ∈ after.head?, Text.isWordChar c = false) :
    plain (before ++ after) = plain before ++ plain after := by
  have hextend : ∀ c, extendWord c (plain after) =
      .word (String.ofList [c]) :: plain after := by
    intro c
    cases after with
    | nil => rfl
    | cons d after =>
        have hmark : Text.isWordChar d = false := hafter d rfl
        have hplain : plain (d :: after) = .mark d :: plain after := by
          simp [plain, hmark]
        rw [hplain]
        rfl
  induction before with
  | nil => rfl
  | cons c before ih =>
      unfold plain at ih hextend ⊢
      rw [List.cons_append, List.foldr_cons, List.foldr_cons, ih]
      split
      · cases before.foldr _ [] with
        | nil => exact hextend c
        | cons lexeme lexemes => cases lexeme <;> rfl
      · rfl

theorem plain_opening_append {before after : String}
    (hbefore : Text.isOpening before = true) :
    plain (before ++ after).toList =
      plain before.toList ++ plain after.toList := by
  obtain ⟨_, hmark⟩ := Bool.and_eq_true_iff.mp hbefore
  obtain ⟨c, hlast, hc⟩ := (Option.any_eq_true _ _).mp hmark
  obtain ⟨front, hfront⟩ := List.getLast?_eq_some_iff.mp hlast
  have hword : Text.isWordChar c = false := Text.isWordChar_of_isMark hc
  have hplain : ∀ rest, plain (front ++ c :: rest) =
      plain front ++ Lexeme.mark c :: plain rest := by
    intro rest
    rw [plain_append (by simpa using hword)]
    simp [plain, hword]
  rw [String.toList_append, hfront, List.append_assoc, List.singleton_append,
    hplain, hplain]
  simp [plain]

theorem plain_word_append {word text after : String}
    (hword : Text.isWord word = true) (htext : Text.isClosing text = true) :
    plain (word ++ (text ++ after)).toList =
      .word word :: plain (text ++ after).toList := by
  obtain ⟨_, hmark⟩ := Bool.and_eq_true_iff.mp htext
  obtain ⟨c, hhead, hc⟩ := (Option.any_eq_true _ _).mp hmark
  have hstart : ∀ d ∈ (text ++ after).toList.head?,
      Text.isWordChar d = false := by
    intro d hd
    obtain rfl : c = d := by simpa [hhead] using hd
    exact Text.isWordChar_of_isMark hc
  rw [String.toList_append, plain_append hstart, plain_of_isWord hword]
  rfl

theorem plain_word_closed {word text : String}
    (hword : Text.isWord word = true) (htext : Text.isClosing text = true) :
    plain (word ++ text).toList = .word word :: plain text.toList := by
  have happend : plain (word ++ (text ++ "")).toList =
      .word word :: plain (text ++ "").toList :=
    plain_word_append hword htext
  rwa [String.append_empty] at happend

end Lexeme

open Lexeme

namespace Piece

theorem lexemesOf_commaSeparated (parts : List (List Piece)) :
    lexemesOf (commaSeparated parts) =
      separated comma (parts.map lexemesOf) := by
  have hcomma : (Piece.text ", ").lexemes = comma := rfl
  unfold commaSeparated
  induction parts with
  | nil => rfl
  | cons part parts ih =>
      cases parts with
      | nil => simp [separated]
      | cons next rest =>
          rw [List.intercalate_cons_cons, lexemesOf_append, lexemesOf_append,
            ih]
          simp [separated, hcomma]

theorem lexemesOf_parenthesised (pieces : List Piece) :
    lexemesOf (parenthesised pieces) =
      .mark '(' :: (lexemesOf pieces ++ [Lexeme.mark ')']) := by
  have hopen : (Piece.text "(").lexemes = [.mark '('] := rfl
  have hclose : (Piece.text ")").lexemes = [.mark ')'] := rfl
  simp [parenthesised, hopen, hclose]

end Piece

section Grammar

variable (known : Dialect.Known)

def Expr.lexemes (expr : Expr) : List Lexeme :=
  Piece.lexemesOf (expr.pieces known.dialect)

def Condition.lexemes (condition : Condition) : List Lexeme :=
  Piece.lexemesOf (condition.pieces known.dialect)

def Select.lexemes (select : Select) : List Lexeme :=
  Piece.lexemesOf (select.pieces known.dialect)

def Table.lexemes (table : Table) : List Lexeme :=
  Piece.lexemesOf (table.pieces known.dialect)

def Literal.lexemes (value : Literal) : List Lexeme :=
  (Piece.literal value).lexemes

/-! ## Expressions -/

namespace Expr

theorem lexemes_column (column : Column) :
    (Expr.column column).lexemes known =
      [.name column.table.reference.name, .mark '.',
        .name column.name.name] := by
  rw [lexemes, pieces]
  rfl

theorem lexemes_asterisk :
    (Expr.asterisk none).lexemes known = [.mark '*'] := by
  rw [lexemes, pieces]
  rfl

theorem lexemes_tableAsterisk (table : Table) :
    (Expr.asterisk (some table)).lexemes known =
      [.name table.reference.name, .mark '.', .mark '*'] := by
  rw [lexemes, pieces]
  rfl

theorem lexemes_subSelect (select : Select) :
    (Expr.subSelect select).lexemes known =
      .mark '(' :: (select.lexemes known ++ [Lexeme.mark ')']) := by
  rw [lexemes, pieces, Piece.lexemesOf_parenthesised]
  rfl

theorem lexemes_literal (value : Literal) :
    (Expr.literal value).lexemes known = value.lexemes := by
  rw [lexemes, pieces]
  simp [Literal.lexemes]

theorem lexemes_bind : (Expr.bind none).lexemes known = [.mark '?'] := by
  rw [lexemes, pieces]
  rfl

theorem lexemes_namedBind {name : Identifier}
    (hname : Text.isWord name.name = true) :
    (Expr.bind (some name)).lexemes known =
      [.mark ':', .word name.name] := by
  have hcolon : (Piece.text ":").lexemes = [.mark ':'] := rfl
  rw [lexemes, pieces, Piece.lexemesOf_cons, hcolon, Piece.lexemesOf_cons,
    Piece.lexemes, plain_of_isWord hname]
  rfl

theorem lexemes_list (exprs : List Expr) :
    Piece.lexemesOf
        (Piece.commaSeparated (Expr.listPieces known.dialect exprs)) =
      separated comma (exprs.map (Expr.lexemes known)) := by
  rw [Piece.lexemesOf_commaSeparated, Expr.listPieces_eq_map, List.map_map]
  rfl

theorem lexemes_function {name : String} (hname : Text.isWord name = true)
    (args : List Expr) :
    (Expr.function name args).lexemes known =
      .word name :: .mark '(' ::
        (separated comma (args.map (Expr.lexemes known)) ++
          [Lexeme.mark ')']) := by
  rw [lexemes, pieces, Piece.lexemesOf_cons, Piece.lexemesOf_parenthesised,
    lexemes_list, Piece.lexemes, plain_of_isWord hname]
  rfl

end Expr

/-! ## Leaves -/

def Comparator.lexemes : Comparator → List Lexeme
  | eq => [.mark '=']
  | ne => [.mark '!', .mark '=']
  | lt => [.mark '<']
  | le => [.mark '<', .mark '=']
  | gt => [.mark '>']
  | ge => [.mark '>', .mark '=']

theorem Comparator.lexemes_eq (comparator : Comparator) :
    (Piece.text comparator.sql).lexemes = comparator.lexemes := by
  cases comparator <;> rfl

namespace Condition

/-- What a leaf says something of. -/
def subject? : Condition → Option Expr
  | comparison left _ _ => some left
  | like left _ => some left
  | inList left _ _ => some left
  | isNull operand _ => some operand
  | nested _ | raw _ | and _ _ | or _ _ | not _ => none

/-- What stands between the parentheses of an IN. -/
def listLexemes : List Expr → List Lexeme
  | [.subSelect select] => select.lexemes known
  | args => separated comma (args.map (Expr.lexemes known))

/-- What a leaf says of its subject, after a space. -/
def predicate : Condition → List Lexeme
  | comparison _ comparator right =>
      comparator.lexemes ++ .mark ' ' :: right.lexemes known
  | like _ right => .word "LIKE" :: .mark ' ' :: right.lexemes known
  | inList _ args negated =>
      (if negated then [.word "NOT", .mark ' '] else []) ++
        .word "IN" :: .mark ' ' :: .mark '(' ::
          (listLexemes known args ++ [.mark ')'])
  | isNull _ negated =>
      .word "IS" :: .mark ' ' ::
        ((if negated then [.word "NOT", .mark ' '] else []) ++ [.word "NULL"])
  | nested _ | raw _ | and _ _ | or _ _ | not _ => []

theorem listLexemes_of_ne {args : List Expr}
    (h : ∀ select, args ≠ [.subSelect select]) :
    listLexemes known args =
      separated comma (args.map (Expr.lexemes known)) := by
  unfold listLexemes
  split
  · exact absurd rfl (h _)
  · rfl

theorem lexemesOf_list (args : List Expr) :
    Piece.lexemesOf (Piece.parenthesisedIf (!isLoneSubSelect args)
        (Piece.commaSeparated (Expr.listPieces known.dialect args))) =
      .mark '(' :: (listLexemes known args ++ [Lexeme.mark ')']) := by
  by_cases hlone : ∃ select, args = [.subSelect select]
  · obtain ⟨select, rfl⟩ := hlone
    have hselect := Expr.lexemes_subSelect known select
    rw [isLoneSubSelect, Bool.not_true, Expr.listPieces_eq_map]
    simpa [Piece.parenthesisedIf, Piece.commaSeparated, listLexemes,
      Expr.lexemes] using hselect
  · have hne : ∀ select, args ≠ [.subSelect select] := by
      simpa using hlone
    have hisLone : isLoneSubSelect args = false := by
      unfold isLoneSubSelect
      split
      · exact absurd rfl (hne _)
      · rfl
    rw [hisLone, Bool.not_false, Piece.parenthesisedIf, if_pos rfl,
      Piece.lexemesOf_parenthesised, Expr.lexemes_list,
      listLexemes_of_ne known hne]

theorem lexemes_of_subject {condition : Condition} {subject : Expr}
    (h : condition.subject? = some subject) :
    condition.lexemes known =
      subject.lexemes known ++
        Lexeme.mark ' ' :: condition.predicate known := by
  cases condition with
  | comparison left comparator right =>
      obtain rfl := Option.some.inj h
      have hspace : (Piece.text " ").lexemes = [.mark ' '] := rfl
      rw [lexemes, pieces]
      simp [hspace, predicate, Expr.lexemes, comparator.lexemes_eq]
  | like left right =>
      obtain rfl := Option.some.inj h
      have hlike : (Piece.text " LIKE ").lexemes =
          [.mark ' ', .word "LIKE", .mark ' '] := rfl
      rw [lexemes, pieces]
      simp [hlike, predicate, Expr.lexemes]
  | inList left args negated =>
      obtain rfl := Option.some.inj h
      have hin : (Piece.text (if negated then " NOT IN " else " IN ")).lexemes =
          .mark ' ' :: ((if negated then [.word "NOT", .mark ' '] else []) ++
            [Lexeme.word "IN", .mark ' ']) := by
        cases negated <;> rfl
      rw [lexemes, pieces, Piece.lexemesOf_append, Piece.lexemesOf_cons, hin,
        lexemesOf_list]
      simp [predicate, Expr.lexemes]
  | isNull operand negated =>
      obtain rfl := Option.some.inj h
      have hnull : (Piece.text
          (if negated then " IS NOT NULL" else " IS NULL")).lexemes =
          .mark ' ' :: .word "IS" :: .mark ' ' ::
            ((if negated then [.word "NOT", .mark ' '] else []) ++
              [Lexeme.word "NULL"]) := by
        cases negated <;> rfl
      rw [lexemes, pieces, Piece.lexemesOf_append, Piece.lexemesOf_cons, hnull]
      simp [predicate, Expr.lexemes]
  | nested _ | raw _ | and _ _ | or _ _ | not _ => cases h

end Condition

/-! ## Operands -/

/-- What stands between the connectives of a chain. -/
inductive Operand where
  | group (inner : Condition)
  | negation (inner : Condition)
  | leaf (condition : Condition)

namespace Condition

/-- A condition in a chain.  Another chain stands in parentheses there. -/
def operand : Condition → Operand
  | nested inner => .group inner
  | and left right => .group (and left right)
  | or left right => .group (or left right)
  | not inner => .negation inner
  | condition => .leaf condition

/-- A condition after NOT, where everything but a negation stands in
parentheses. -/
def negand : Condition → Operand
  | nested inner => .group inner
  | not inner => .negation inner
  | condition => .group condition

end Condition

def Operand.lexemes : Operand → List Lexeme
  | group inner => .mark '(' :: (inner.lexemes known ++ [.mark ')'])
  | negation inner => (Condition.not inner).lexemes known
  | leaf condition => condition.lexemes known

def Operand.normal : Operand → Condition
  | group inner => inner.normal known
  | negation inner => .not (inner.normal known)
  | leaf condition => condition.normal known

def Conjunction.lexemes : Conjunction → List Lexeme
  | and => [.mark ' ', .word "AND", .mark ' ']
  | or => [.mark ' ', .word "OR", .mark ' ']

namespace Condition

theorem normal_operand (condition : Condition) :
    condition.operand.normal known = condition.normal known := by
  cases condition <;> rfl

theorem normal_negand (condition : Condition) :
    condition.negand.normal known = condition.normal known := by
  cases condition <;> rfl

theorem lexemes_parenthesised (condition : Condition) :
    Piece.lexemesOf (Piece.parenthesised (condition.pieces known.dialect)) =
      (Operand.group condition).lexemes known :=
  Piece.lexemesOf_parenthesised _

theorem lexemes_not {inner : Condition}
    (h : ∀ text, inner ≠ .raw text) :
    (Condition.not inner).lexemes known =
      .word "NOT" :: .mark ' ' :: inner.negand.lexemes known := by
  have hnot : (Piece.text "NOT ").lexemes = [.word "NOT", .mark ' '] := rfl
  have hinner : Piece.lexemesOf (Piece.parenthesisedIf
        inner.needsParenthesesAfterNot (inner.pieces known.dialect)) =
      inner.negand.lexemes known := by
    cases inner with
    | raw text => exact absurd rfl (h text)
    | not inner => rfl
    | nested inner =>
        rw [pieces]
        exact lexemes_parenthesised known inner
    | _ => exact lexemes_parenthesised known _
  rw [lexemes, pieces, Piece.lexemesOf_cons, hnot, hinner]
  rfl

/-- Whether a chain of this kind puts the condition in parentheses. -/
def isEnclosedBy (condition : Condition) : Conjunction → Bool
  | .and => condition.isOr
  | .or => condition.isAnd

def operandLexemes (kind : Conjunction) (condition : Condition) :
    List Lexeme :=
  separated kind.lexemes
    ((condition.operands kind).map fun part => part.operand.lexemes known)

theorem operandLexemes_of_single {kind : Conjunction} {condition : Condition}
    (h : condition.operands kind = [condition]) :
    condition.operandLexemes known kind = condition.operand.lexemes known := by
  simp [operandLexemes, h, separated]

theorem operandLexemes_of_append {kind : Conjunction}
    {condition left right : Condition}
    (h : condition.operands kind =
      left.operands kind ++ right.operands kind) :
    condition.operandLexemes known kind =
      left.operandLexemes known kind ++ kind.lexemes ++
        right.operandLexemes known kind := by
  unfold operandLexemes
  rw [h, List.map_append]
  exact separated_append _ (by simp [operands_ne_nil])
    (by simp [operands_ne_nil])

/-- A part of a chain is written as its own operands. -/
theorem lexemes_enclosed (kind : Conjunction) (condition : Condition) :
    Piece.lexemesOf (Piece.parenthesisedIf (condition.isEnclosedBy kind)
        (condition.pieces known.dialect)) =
      condition.operandLexemes known kind := by
  induction condition using Condition.inductionOn with
  | and left right ihleft ihright =>
      cases kind with
      | and =>
          have hand : (Piece.text " AND ").lexemes = Conjunction.and.lexemes :=
            rfl
          change Piece.lexemesOf ((and left right).pieces known.dialect) = _
          rw [operandLexemes_of_append known rfl, ← ihleft, ← ihright, pieces,
            Piece.lexemesOf_append, Piece.lexemesOf_cons, hand,
            List.append_assoc]
          rfl
      | or =>
          rw [operandLexemes_of_single known rfl]
          exact lexemes_parenthesised known (and left right)
  | or left right ihleft ihright =>
      cases kind with
      | and =>
          rw [operandLexemes_of_single known rfl]
          exact lexemes_parenthesised known (or left right)
      | or =>
          have hor : (Piece.text " OR ").lexemes = Conjunction.or.lexemes :=
            rfl
          change Piece.lexemesOf ((or left right).pieces known.dialect) = _
          rw [operandLexemes_of_append known rfl, ← ihleft, ← ihright, pieces,
            Piece.lexemesOf_append, Piece.lexemesOf_cons, hor,
            List.append_assoc]
          rfl
  | nested inner ih =>
      rw [operandLexemes_of_single known rfl]
      cases kind <;>
      · change Piece.lexemesOf ((nested inner).pieces known.dialect) = _
        rw [pieces]
        exact lexemes_parenthesised known inner
  | _ =>
      rw [operandLexemes_of_single known rfl]
      cases kind <;> rfl

/-- The connective of a chain; what is no chain counts as one of AND. -/
def connective (condition : Condition) : Conjunction :=
  if condition.isOr then .or else .and

theorem lexemes_chain (condition : Condition) :
    condition.lexemes known =
      condition.operandLexemes known condition.connective := by
  have hopen : condition.isEnclosedBy condition.connective = false := by
    cases condition <;> rfl
  rw [← lexemes_enclosed, hopen]
  rfl

end Condition

/-! ## Statements -/

def Identifier.aliasLexemes (aliasName : Identifier) : List Lexeme :=
  [.mark ' ', .word "AS", .mark ' ', .name aliasName.name]

theorem Table.lexemes_eq (table : Table) :
    table.lexemes known =
      .name table.name.name ::
        table.aliasName?.elim [] Identifier.aliasLexemes := by
  unfold lexemes pieces
  rw [known.aliasKeyword_eq]
  cases table.aliasName? <;> rfl

def JoinKind.lexemes : JoinKind → List Lexeme
  | inner => [.word "JOIN"]
  | leftOuter =>
      [.word "LEFT", .mark ' ', .word "OUTER", .mark ' ', .word "JOIN"]
  | rightOuter =>
      [.word "RIGHT", .mark ' ', .word "OUTER", .mark ' ', .word "JOIN"]
  | fullOuter =>
      [.word "FULL", .mark ' ', .word "OUTER", .mark ' ', .word "JOIN"]

def Join.lexemes (join : Join) : List Lexeme :=
  join.kind.lexemes ++ .mark ' ' ::
    (join.table.lexemes known ++ .mark ' ' :: .word "ON" :: .mark ' ' ::
      join.on.lexemes known)

theorem Join.lexemes_eq (join : Join) :
    Piece.lexemesOf (join.pieces known.dialect) = join.lexemes known := by
  have hspace : (Piece.text " ").lexemes = [.mark ' '] := rfl
  have hon : (Piece.text " ON ").lexemes =
      [.mark ' ', .word "ON", .mark ' '] := rfl
  have hkind : ∀ kind : JoinKind,
      (Piece.text kind.sql).lexemes = kind.lexemes := by
    intro kind
    cases kind <;> rfl
  obtain ⟨kind, table, on⟩ := join
  rw [pieces]
  simp [lexemes, hspace, hon, hkind, Table.lexemes, Condition.lexemes]

theorem Join.lexemesOf_listPieces (joins : List Join) :
    Piece.lexemesOf (Join.listPieces known.dialect joins) =
      joins.flatMap fun join => .mark ' ' :: join.lexemes known := by
  have hspace : (Piece.text " ").lexemes = [.mark ' '] := rfl
  rw [listPieces_eq_flatMap, Piece.lexemesOf, List.flatMap_assoc]
  refine List.flatMap_congr fun join _ => ?_
  rw [List.flatMap_cons, hspace, ← join.lexemes_eq]
  rfl

def Direction.lexemes : Direction → List Lexeme
  | asc => [.mark ' ', .word "ASC"]
  | desc => [.mark ' ', .word "DESC"]

def NullOrder.lexemes : NullOrder → List Lexeme
  | first => [.mark ' ', .word "NULLS", .mark ' ', .word "FIRST"]
  | last => [.mark ' ', .word "NULLS", .mark ' ', .word "LAST"]

def OrderField.lexemes (field : OrderField) : List Lexeme :=
  field.expr.lexemes known ++
    (field.direction.elim [] Direction.lexemes ++
      field.nulls.elim [] NullOrder.lexemes)

theorem OrderField.lexemes_eq (field : OrderField) :
    Piece.lexemesOf (field.pieces known.dialect) = field.lexemes known := by
  obtain ⟨expr, direction, nulls⟩ := field
  unfold pieces lexemes
  rw [Piece.lexemesOf_append, Piece.lexemesOf_append, List.append_assoc]
  refine congrArg (expr.lexemes known ++ ·) ?_
  rcases direction with _ | _ | _ <;> rcases nulls with _ | _ | _ <;> rfl

/-- The condition of a WHERE, after a space. -/
def Condition.whereLexemes (condition : Condition) : List Lexeme :=
  .mark ' ' :: .word "WHERE" :: .mark ' ' :: condition.lexemes known

theorem Condition.whereLexemes_eq (filter : Option Condition) :
    Piece.lexemesOf (Condition.wherePieces known.dialect filter) =
      filter.elim [] (Condition.whereLexemes known) := by
  cases filter <;> rfl

/-- The ORDER BY of a statement that has one. -/
def OrderField.orderByLexemes : List OrderField → Option (List Lexeme)
  | [] => none
  | fields =>
      some (.word "ORDER" :: .mark ' ' :: .word "BY" :: .mark ' ' ::
        separated comma (fields.map (OrderField.lexemes known)))

theorem OrderField.orderByLexemes_eq (fields : List OrderField) :
    (OrderField.orderByPieces known.dialect fields).map Piece.lexemesOf =
      OrderField.orderByLexemes known fields := by
  have horderBy : (Piece.text "ORDER BY ").lexemes =
      [.word "ORDER", .mark ' ', .word "BY", .mark ' '] := rfl
  cases fields with
  | nil => rfl
  | cons field fields =>
      have hlist := Piece.lexemesOf_commaSeparated
        ((field :: fields).map (OrderField.pieces known.dialect))
      have hfields : (((field :: fields).map
          (OrderField.pieces known.dialect)).map Piece.lexemesOf) =
          (field :: fields).map (OrderField.lexemes known) := by
        rw [List.map_map]
        exact List.map_congr_left fun field _ => field.lexemes_eq known
      rw [hfields] at hlist
      rw [orderByPieces, OrderField.listPieces_eq_map, ← List.map_cons,
        Option.map_some, Piece.lexemesOf_cons, horderBy, hlist]
      rfl

namespace Dialect.Known

def limitOffsetLexemes (limit offset : UInt64) : List Lexeme :=
  match known with
  | ansi =>
      phrase ["OFFSET", decimal offset, "ROWS", "FETCH", "FIRST",
        decimal limit, "ROWS", "ONLY"]
  | postgres | h2 =>
      phrase ["LIMIT", decimal limit, "OFFSET", decimal offset]
  | mysql =>
      phrase ["LIMIT", decimal offset] ++
        [.mark ',', .mark ' ', .word (decimal limit)]
  | sqlServer =>
      phrase ["OFFSET", decimal offset, "ROWS", "FETCH", "NEXT",
        decimal limit, "ROWS", "ONLY"]

def limitLexemes (limit : UInt64) : List Lexeme :=
  match known with
  | ansi => phrase ["FETCH", "FIRST", decimal limit, "ROWS", "ONLY"]
  | postgres | mysql | h2 => phrase ["LIMIT", decimal limit]
  | sqlServer => sqlServer.limitOffsetLexemes limit 0

def offsetLexemes (offset : UInt64) : List Lexeme :=
  match known with
  | ansi | sqlServer => phrase ["OFFSET", decimal offset, "ROWS"]
  | postgres | h2 => phrase ["OFFSET", decimal offset]
  | mysql => mysql.limitOffsetLexemes 18446744073709551615 offset

def pagingLexemes : Option UInt64 → Option UInt64 → Option (List Lexeme)
  | some limit, some offset => some (known.limitOffsetLexemes limit offset)
  | some limit, none => some (known.limitLexemes limit)
  | none, some offset => some (known.offsetLexemes offset)
  | none, none => none

theorem pagingLexemes_eq (limit offset : Option UInt64) :
    ((known.dialect.paging limit offset).map fun text =>
        Lexeme.plain text.toList) =
      known.pagingLexemes limit offset := by
  have hdecimal : ∀ n : UInt64, Text.isWord (decimal n) = true := fun n =>
    Text.isWord_repr n.toNat
  have hlimit : ∀ limit, Lexeme.plain (known.dialect.limit limit).toList =
      known.limitLexemes limit := by
    intro limit
    cases known <;>
    · simp (disch := first | decide | exact hdecimal _) only [dialect,
        Dialect.ansi, Dialect.postgres, Dialect.mysql, Dialect.h2,
        Dialect.sqlServer, String.append_assoc, plain_opening_append,
        plain_word_closed, plain_of_isWord]
      rfl
  have hgreatest : Lexeme.plain ", 18446744073709551615".toList =
      [.mark ',', .mark ' ', .word (decimal 18446744073709551615)] := by
    decide +kernel
  have hoffset : ∀ offset, Lexeme.plain (known.dialect.offset offset).toList =
      known.offsetLexemes offset := by
    intro offset
    cases known <;>
    · simp (disch := first | decide | exact hdecimal _) only [dialect,
        Dialect.ansi, Dialect.postgres, Dialect.mysql, Dialect.h2,
        Dialect.sqlServer, String.append_assoc, plain_opening_append,
        plain_word_closed, plain_of_isWord, hgreatest]
      rfl
  have hboth : ∀ limit offset,
      Lexeme.plain (known.dialect.limitOffset limit offset).toList =
        known.limitOffsetLexemes limit offset := by
    intro limit offset
    cases known <;>
    · simp (disch := first | decide | exact hdecimal _) only [dialect,
        Dialect.ansi, Dialect.postgres, Dialect.mysql, Dialect.h2,
        Dialect.sqlServer, String.append_assoc, plain_opening_append,
        plain_word_append, plain_word_closed, plain_of_isWord]
      rfl
  cases limit <;> cases offset <;>
    simp [paging, pagingLexemes, hlimit, hoffset, hboth]

/-- The ORDER BY that a statement has, or is given where its paging asks for
one. -/
def orderLexemes (fields : List OrderField) (limit offset : Option UInt64) :
    Option (List Lexeme) :=
  match OrderField.orderByLexemes known fields,
    known.pagingLexemes limit offset with
  | some order, _ => some order
  | none, some _ =>
      known.dialect.pagingOrder.map fun text => Lexeme.plain text.toList
  | none, none => none

end Dialect.Known

def Lexeme.spaced : Option (List Lexeme) → List Lexeme
  | none => []
  | some lexemes => .mark ' ' :: lexemes

theorem Piece.lexemesOf_spaced (pieces? : Option (List Piece)) :
    lexemesOf (spaced pieces?) = Lexeme.spaced (pieces?.map lexemesOf) := by
  cases pieces? <;> rfl

def Select.tailLexemes (select : Select) : List Lexeme :=
  spaced (known.orderLexemes select.order select.limit select.offset) ++
    spaced (known.pagingLexemes select.limit select.offset)

theorem Select.tailLexemes_eq (select : Select) :
    Piece.lexemesOf (known.dialect.tail
        (OrderField.orderByPieces known.dialect select.order)
        select.limit select.offset) =
      select.tailLexemes known := by
  have htexts : ∀ text? : Option String,
      (text?.map fun text => [Piece.text text]).map Piece.lexemesOf =
        text?.map fun text => Lexeme.plain text.toList := by
    intro text?
    cases text? <;> simp [Piece.lexemes]
  have horder : (known.orderSection?
        (OrderField.orderByPieces known.dialect select.order)
        select.limit select.offset).map Piece.lexemesOf =
      known.orderLexemes select.order select.limit select.offset := by
    unfold Dialect.Known.orderSection? Dialect.Known.orderLexemes
    rw [← OrderField.orderByLexemes_eq, ← known.pagingLexemes_eq]
    cases OrderField.orderByPieces known.dialect select.order with
    | some order => rfl
    | none =>
        cases known.dialect.paging select.limit select.offset with
        | none => rfl
        | some text => exact htexts known.dialect.pagingOrder
  rw [known.tail_eq, Piece.lexemesOf_append, Piece.lexemesOf_spaced,
    Piece.lexemesOf_spaced, horder, htexts, known.pagingLexemes_eq]
  rfl

theorem Select.lexemes_eq (select : Select) :
    select.lexemes known =
      .word "SELECT" :: .mark ' ' ::
        ((if select.distinct then [.word "DISTINCT", .mark ' '] else []) ++
        separated comma (select.items.map (Expr.lexemes known)) ++
        Lexeme.mark ' ' :: .word "FROM" :: .mark ' ' ::
        (separated comma (select.tables.map (Table.lexemes known)) ++
        (select.joins.flatMap fun join => .mark ' ' :: join.lexemes known) ++
        select.filter.elim [] (Condition.whereLexemes known) ++
        select.tailLexemes known)) := by
  have hselect : (Piece.text (if select.distinct then "SELECT DISTINCT "
        else "SELECT ")).lexemes =
      .word "SELECT" :: .mark ' ' ::
        (if select.distinct then [.word "DISTINCT", .mark ' '] else []) := by
    cases select.distinct <;> rfl
  have hfrom : (Piece.text " FROM ").lexemes =
      [.mark ' ', .word "FROM", .mark ' '] := rfl
  have htables : Piece.lexemesOf (Piece.commaSeparated
        (select.tables.map (Table.pieces known.dialect))) =
      separated comma (select.tables.map (Table.lexemes known)) := by
    rw [Piece.lexemesOf_commaSeparated, List.map_map]
    rfl
  have htail := select.tailLexemes_eq known
  obtain ⟨distinct, items, tables, joins, filter, order, limit, offset⟩ :=
    select
  rw [lexemes, pieces]
  simp only [Piece.lexemesOf_append, Piece.lexemesOf_cons, hselect, hfrom,
    Expr.lexemes_list, htables, Join.lexemesOf_listPieces,
    Condition.whereLexemes_eq, htail]
  simp

end Grammar

end SqlStatement
