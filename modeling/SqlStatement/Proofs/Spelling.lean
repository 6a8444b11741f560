import SqlStatement.Dialect.Known
import SqlStatement.Layout
import SqlStatement.Proofs.Lexeme
import SqlStatement.Proofs.Preorder
import SqlStatement.Proofs.Rendering
import Mathlib.Tactic

/-!
# The lexemes of a statement

When all names are quoted, the lexemes of a text are those of the pieces it was
put together from: a name is one lexeme and so is a string, whatever is in
them, and nothing runs into its neighbour.  For this the statement must not
have raw text in it, and what is written without quotes on the wish of the
caller, that is the names of functions and bind markers, must be words.

The constructs are gone through once.  Each of them separates what is in it by
texts that begin or end with a mark.
-/

namespace SqlStatement

/-- The identifier without the wish to see it quoted. -/
def Identifier.bare (name : Identifier) : Identifier :=
  { name with quoted := false }

@[simp] theorem Identifier.name_bare (name : Identifier) :
    name.bare.name = name.name :=
  rfl

theorem Identifier.bare_eq_bare_iff {first second : Identifier} :
    first.bare = second.bare ↔ first.name = second.name := by
  constructor
  · intro h
    simpa [bare] using h
  · intro h
    unfold bare
    simp only [h]

namespace Piece

def lexemes : Piece → List Lexeme
  | text t => Lexeme.plain t.toList
  | name n => [.name n.name]
  | literal (.string value) => [.string value]
  | literal value => Lexeme.plain value.sql.toList

/-- What a statement need not have, after a space. -/
def spaced : Option (List Piece) → List Piece
  | none => []
  | some pieces => text " " :: pieces

def lexemesOf (pieces : List Piece) : List Lexeme :=
  pieces.flatMap lexemes

@[simp] theorem lexemesOf_nil : lexemesOf [] = [] :=
  rfl

@[simp] theorem lexemesOf_cons (piece : Piece) (pieces : List Piece) :
    lexemesOf (piece :: pieces) = piece.lexemes ++ lexemesOf pieces := by
  simp [lexemesOf]

@[simp] theorem lexemesOf_append (before after : List Piece) :
    lexemesOf (before ++ after) = lexemesOf before ++ lexemesOf after := by
  simp [lexemesOf]

end Piece

/-! ## Texts without delimiters -/

namespace Text

def isPlain (text : String) : Bool :=
  text.toList.all fun c => !isDelimiter c

/-- What follows begins a new lexeme. -/
def isOpening (text : String) : Bool :=
  isPlain text && text.toList.getLast?.any isMark

/-- What stands before has come to the end of its last lexeme. -/
def isClosing (text : String) : Bool :=
  isPlain text && text.toList.head?.any isMark

def isGap (text : String) : Bool :=
  isClosing text && isOpening text

@[simp] theorem isPlain_append (before after : String) :
    isPlain (before ++ after) = (isPlain before && isPlain after) := by
  simp [isPlain]

theorem isPlain_of_forall {text : String}
    (h : ∀ c ∈ text.toList, isDelimiter c = false) : isPlain text = true := by
  simpa [isPlain] using h

theorem not_isDelimiter_of_isPlain {text : String} (h : isPlain text = true) :
    ∀ c ∈ text.toList, isDelimiter c = false := by
  simpa [isPlain] using h

theorem not_isDelimiter_of_isWordChar {c : Char} (hc : isWordChar c = true) :
    isDelimiter c = false := by
  by_contra hdelimiter
  simp only [isDelimiter, Bool.not_eq_false, Bool.or_eq_true,
    beq_iff_eq] at hdelimiter
  rcases hdelimiter with (rfl | rfl) | rfl
  all_goals exact absurd hc (by decide)

theorem isWordChar_of_isDigit {c : Char} (hc : c.isDigit = true) :
    isWordChar c = true := by
  simp [isWordChar, Char.isAlphanum, hc]

theorem isPlain_of_isWord {text : String} (h : isWord text = true) :
    isPlain text = true := by
  have hall : ∀ c ∈ text.toList, isWordChar c = true := by
    simp only [isWord, Bool.and_eq_true, List.all_eq_true] at h
    exact h.2
  exact isPlain_of_forall fun c hc =>
    not_isDelimiter_of_isWordChar (hall c hc)

theorem isPlain_ofList {chars : List Char}
    (h : ∀ c ∈ chars, isWordChar c = true ∨ c = '.') :
    isPlain (String.ofList chars) = true := by
  apply isPlain_of_forall
  intro c hc
  rw [String.toList_ofList] at hc
  rcases h c hc with hword | rfl
  · exact not_isDelimiter_of_isWordChar hword
  · decide

theorem isWord_repr (n : Nat) : isWord n.repr = true := by
  have hne : Nat.toDigits 10 n ≠ [] := Nat.toDigits_ne_nil
  have hall : ∀ c ∈ Nat.toDigits 10 n, isWordChar c = true := fun c hc =>
    isWordChar_of_isDigit
      (Nat.isDigit_of_mem_toDigits (by decide) (by decide) hc)
  simpa [isWord, Nat.toList_repr, hne] using hall

end Text

theorem Decimal.isPlain_positional (decimal : Decimal) :
    Text.isPlain decimal.positional = true := by
  have hdigits : ∀ c ∈ Nat.toDigits 10 decimal.coefficient,
      Text.isWordChar c = true := fun c hc =>
    Text.isWordChar_of_isDigit
      (Nat.isDigit_of_mem_toDigits (by decide) (by decide) hc)
  have hzero : Text.isWordChar '0' = true := by decide
  unfold positional
  simp only
  split
  · apply Text.isPlain_ofList
    intro c hc
    rcases List.mem_append.mp hc with hdigit | hpadding
    · exact .inl (hdigits c hdigit)
    · rw [(List.mem_replicate.mp hpadding).2]
      exact .inl hzero
  · split
    · apply Text.isPlain_ofList
      intro c hc
      rw [List.mem_append, List.mem_cons] at hc
      rcases hc with hwhole | rfl | hfraction
      · exact .inl (hdigits c (List.mem_of_mem_take hwhole))
      · exact .inr rfl
      · exact .inl (hdigits c (List.mem_of_mem_drop hfraction))
    · apply Text.isPlain_ofList
      intro c hc
      rw [List.mem_cons, List.mem_cons, List.mem_append] at hc
      rcases hc with rfl | rfl | hpadding | hdigit
      · exact .inl hzero
      · exact .inr rfl
      · rw [(List.mem_replicate.mp hpadding).2]
        exact .inl hzero
      · exact .inl (hdigits c hdigit)

theorem Binary64.isPlain_text (x : Binary64) : Text.isPlain x.text = true := by
  unfold text
  split
  · decide
  · have hsign : Text.isPlain (if x.isNegative then "-" else "") = true := by
      split <;> decide
    have hmagnitude :
        Text.isPlain (if x.isFinite then x.shortest.positional else "inf") =
          true := by
      split
      · exact x.shortest.isPlain_positional
      · decide
    simp only [Text.isPlain_append, hsign, hmagnitude, Bool.and_self]

theorem Literal.isPlain_sql {value : Literal}
    (h : ∀ text, value ≠ .string text) : Text.isPlain value.sql = true := by
  cases value with
  | integer value =>
      change Text.isPlain value.toInt.repr = true
      cases value.toInt with
      | ofNat n => exact Text.isPlain_of_isWord (Text.isWord_repr n)
      | negSucc n =>
          have hsign : Text.isPlain "-" = true := by decide
          have hdigits := Text.isPlain_of_isWord (Text.isWord_repr n.succ)
          rw [Int.repr, Text.isPlain_append, hsign, hdigits]
          rfl
  | float value => exact value.isPlain_text
  | string text => exact absurd rfl (h text)
  | boolean value => cases value <;> decide
  | null => decide

namespace Dialect.Known

def quotingAll (known : Known) : Style :=
  ⟨known.dialect, .always⟩

theorem isDelimiter_quote (known : Known) :
    Text.isDelimiter known.dialect.quote = true := by
  cases known <;> rfl

theorem quote_ne_apostrophe (known : Known) :
    known.dialect.quote ≠ '\'' := by
  cases known <;> decide

theorem quoted_eq (known : Known) (name : String) :
    known.dialect.quoted name =
      Text.Quoted.encode known.dialect.quote name := by
  cases known <;> rfl

theorem aliasKeyword_eq (known : Known) :
    known.dialect.aliasKeyword = some "AS" := by
  cases known <;> rfl

theorem isPlain_paging (known : Known) {limit offset : Option UInt64}
    {text : String} (h : known.dialect.paging limit offset = some text) :
    Text.isPlain text = true := by
  have hdecimal : ∀ n : UInt64, Text.isPlain (decimal n) = true := fun n =>
    Text.isPlain_of_isWord (Text.isWord_repr n.toNat)
  rcases limit with _ | limit <;> rcases offset with _ | offset
  · simp [Dialect.paging] at h
  all_goals
    obtain rfl := Option.some.inj h
    cases known <;>
      simp only [dialect, Dialect.ansi, Dialect.postgres, Dialect.mysql,
        Dialect.h2, Dialect.sqlServer, Text.isPlain_append, hdecimal] <;>
      decide

/-! ## Pieces one after the other -/

/-- The text of the pieces has the lexemes of the pieces. -/
def Spells (known : Known) (pieces : List Piece) : Prop :=
  lexemes? known.dialect.quote (known.quotingAll.write pieces).toList =
    some (Piece.lexemesOf pieces)

end Dialect.Known

namespace Dialect.Known.Spells

variable {known : Known} {before after pieces : List Piece} {text : String}

theorem append (hbefore : known.Spells before) (hafter : known.Spells after)
    (hseparate : Text.Separate (known.quotingAll.write before).toList
      (known.quotingAll.write after).toList) :
    known.Spells (before ++ after) := by
  unfold Spells at hbefore hafter ⊢
  rw [Style.write_append, String.toList_append,
    lexemes?_append known.isDelimiter_quote hbefore hseparate, hafter,
    Piece.lexemesOf_append, Option.map_some]

theorem nil : known.Spells [] :=
  rfl

theorem plain (htext : Text.isPlain text = true) :
    known.Spells [.text text] := by
  have hlexemes := lexemes?_plain known.isDelimiter_quote text.toList
    (Text.not_isDelimiter_of_isPlain htext)
  simpa [Spells, Style.piece, Piece.lexemes] using hlexemes

theorem name (name : Identifier) : known.Spells [.name name] := by
  have hwritten : known.quotingAll.write [.name name] =
      Text.Quoted.encode known.dialect.quote name.name := by
    rw [← known.quoted_eq]
    simp [Style.piece, Style.identifier, quotingAll, Quoting.applies]
  have hlexemes := lexemes?_enclose .name name.name.toList
    known.quote_ne_apostrophe
  unfold Spells
  rw [hwritten, Text.Quoted.encode, Text.Quoted.toList_enclose]
  simpa [Enclosed.delimiter, Enclosed.lexeme, Piece.lexemes] using hlexemes

theorem literal (value : Literal) : known.Spells [.literal value] := by
  cases value with
  | string value =>
      have hlexemes := lexemes?_enclose .string value.toList
        known.quote_ne_apostrophe
      simpa [Spells, Style.piece, Literal.sql,
        Text.Quoted.toList_replaceChar_apostrophe, Enclosed.delimiter,
        Enclosed.lexeme, Piece.lexemes] using hlexemes
  | integer _ | float _ | boolean _ | null =>
      exact plain (Literal.isPlain_sql (by simp))

theorem text_cons (h : known.Spells pieces)
    (htext : Text.isOpening text = true) :
    known.Spells (.text text :: pieces) := by
  obtain ⟨hplain, hmark⟩ := Bool.and_eq_true_iff.mp htext
  obtain ⟨c, hlast, hc⟩ := (Option.any_eq_true _ _).mp hmark
  refine (plain hplain).append h (.inl ⟨c, ?_, hc⟩)
  simpa [Style.piece] using hlast

theorem append_text (h : known.Spells pieces)
    (htext : Text.isClosing text = true) :
    known.Spells (pieces ++ [Piece.text text]) := by
  obtain ⟨hplain, hmark⟩ := Bool.and_eq_true_iff.mp htext
  obtain ⟨c, hhead, hc⟩ := (Option.any_eq_true _ _).mp hmark
  refine h.append (plain hplain) (.inr ?_)
  intro d hd
  obtain rfl : c = d := by simpa [Style.piece, hhead] using hd
  exact hc

theorem between (hbefore : known.Spells before) (hafter : known.Spells after)
    (htext : Text.isGap text = true) :
    known.Spells (before ++ Piece.text text :: after) := by
  obtain ⟨hclosing, hopening⟩ := Bool.and_eq_true_iff.mp htext
  obtain ⟨_, hmark⟩ := Bool.and_eq_true_iff.mp hopening
  obtain ⟨c, hlast, hc⟩ := (Option.any_eq_true _ _).mp hmark
  have hall := (hbefore.append_text hclosing).append hafter
    (.inl ⟨c, by simp [Style.piece, hlast], hc⟩)
  rwa [List.append_assoc, List.singleton_append] at hall

theorem parenthesised (h : known.Spells pieces) :
    known.Spells (Piece.parenthesised pieces) := by
  have hclosed : known.Spells (pieces ++ [Piece.text ")"]) :=
    h.append_text (by decide)
  exact hclosed.text_cons (by decide)

theorem parenthesisedIf (wrap : Bool) (h : known.Spells pieces) :
    known.Spells (Piece.parenthesisedIf wrap pieces) := by
  cases wrap with
  | false => exact h
  | true => exact h.parenthesised

theorem commaSeparated {parts : List (List Piece)}
    (h : ∀ part ∈ parts, known.Spells part) :
    known.Spells (Piece.commaSeparated parts) := by
  unfold Piece.commaSeparated
  induction parts with
  | nil => exact nil
  | cons part parts ih =>
      have hpart := h part List.mem_cons_self
      have hparts := ih fun p hp => h p (List.mem_cons_of_mem part hp)
      cases parts with
      | nil => rwa [List.intercalate_singleton]
      | cons next rest =>
          rw [List.intercalate_cons_cons, List.append_assoc]
          exact hpart.between hparts (by decide)

theorem append_spaced (hbefore : known.Spells before)
    {section? : Option (List Piece)}
    (hsection : ∀ pieces ∈ section?, known.Spells pieces) :
    known.Spells (before ++ Piece.spaced section?) := by
  cases section? with
  | none => rwa [Piece.spaced, List.append_nil]
  | some pieces =>
      exact hbefore.between (hsection pieces rfl) (by decide)

end Dialect.Known.Spells

/-! ## The pieces of a node -/

/-- Without the words that a clause begins with. -/
def Node.pieces (dialect : Dialect) : Node → List Piece
  | select s => s.pieces dialect
  | items es => Piece.commaSeparated (es.map (Expr.pieces dialect))
  | tables ts => Piece.commaSeparated (ts.map (Table.pieces dialect))
  | join j => j.pieces dialect
  | filter c => c.pieces dialect
  | order fs => Piece.commaSeparated (fs.map (OrderField.pieces dialect))
  | orderField f => f.pieces dialect
  | table t => t.pieces dialect
  | expr e => e.pieces dialect
  | condition c => c.pieces dialect

/-- Something is true of a node and of all nodes below it. -/
def Node.Throughout (node : Node) (p : Node → Bool) : Prop :=
  ∀ below ∈ node.nodes, p below = true

theorem Node.Throughout.self {node : Node} {p : Node → Bool}
    (h : node.Throughout p) : p node = true := by
  apply h
  rw [nodes_eq]
  exact List.mem_cons_self

theorem Node.Throughout.of_mem_children {node child : Node} {p : Node → Bool}
    (h : node.Throughout p) (hmem : child ∈ node.children) :
    child.Throughout p := by
  intro below hbelow
  apply h
  rw [nodes_eq, List.mem_cons, List.mem_flatMap]
  exact .inr ⟨child, hmem, hbelow⟩

/-- No raw text, and what is written without quotes on the wish of the caller
is a word. -/
def Node.isPlain : Node → Bool
  | expr (.raw _) | condition (.raw _) => false
  | expr (.function name _) => Text.isWord name
  | expr (.bind (some name)) => Text.isWord name.name
  | _ => true

/-! ## All constructs -/

namespace Dialect.Known

/-- The ORDER BY of a paged statement that has none. -/
def orderSection? (known : Known) (order : Option (List Piece))
    (limit offset : Option UInt64) : Option (List Piece) :=
  match order, known.dialect.paging limit offset with
  | some order, _ => some order
  | none, some _ => known.dialect.pagingOrder.map fun text => [.text text]
  | none, none => none

theorem tail_eq (known : Known) (order : Option (List Piece))
    (limit offset : Option UInt64) :
    known.dialect.tail order limit offset =
      Piece.spaced (known.orderSection? order limit offset) ++
        Piece.spaced ((known.dialect.paging limit offset).map
          fun text => [.text text]) := by
  have hposition : known.dialect.position = .afterOrderBy := by
    cases known <;> rfl
  unfold Dialect.tail orderSection?
  simp only [hposition]
  cases order <;> cases known.dialect.paging limit offset <;>
    cases known.dialect.pagingOrder <;> simp [Piece.spaced]

variable {known : Known}

theorem spells_table (table : Table) :
    known.Spells (table.pieces known.dialect) := by
  have hname : known.Spells [.name table.name] := .name table.name
  unfold Table.pieces
  rw [known.aliasKeyword_eq]
  cases table.aliasName? with
  | none => exact hname
  | some aliasName =>
      have hkeyword : known.Spells [.text "AS"] := .plain (by decide)
      have haliased :
          known.Spells
            ([Piece.text "AS"] ++ [Piece.text " ", .name aliasName]) :=
        hkeyword.between (.name aliasName) (by decide)
      exact hname.between haliased (by decide)

theorem spells_exprs {exprs : List Expr}
    (h : ∀ expr ∈ exprs, known.Spells (expr.pieces known.dialect)) :
    known.Spells
      (Piece.commaSeparated (Expr.listPieces known.dialect exprs)) := by
  apply Spells.commaSeparated
  rw [Expr.listPieces_eq_map]
  exact List.forall_mem_map.mpr h

theorem spells_expr {expr : Expr} (hplain : (Node.expr expr).isPlain = true)
    (hchild : ∀ child ∈ (Node.expr expr).children,
      known.Spells (child.pieces known.dialect)) :
    known.Spells (expr.pieces known.dialect) := by
  cases expr with
  | column column =>
      have htable : known.Spells [.name column.table.reference] :=
        .name column.table.reference
      have hcolumn : known.Spells ([Piece.name column.table.reference] ++
          Piece.text "." :: [.name column.name]) :=
        htable.between (.name column.name) (by decide)
      rwa [Expr.pieces]
  | raw text => cases hplain
  | asterisk table =>
      cases table with
      | none =>
          rw [Expr.pieces]
          exact Spells.plain (by decide)
      | some table =>
          have hname : known.Spells [.name table.reference] :=
            .name table.reference
          rw [Expr.pieces]
          exact hname.append_text (by decide)
  | subSelect select =>
      have hselect := hchild (.select select) List.mem_cons_self
      rw [Expr.pieces]
      exact hselect.parenthesised
  | literal value =>
      rw [Expr.pieces]
      exact Spells.literal value
  | bind name =>
      cases name with
      | none =>
          rw [Expr.pieces]
          exact Spells.plain (by decide)
      | some name =>
          have hname : known.Spells [.text name.name] :=
            Spells.plain (Text.isPlain_of_isWord hplain)
          rw [Expr.pieces]
          exact hname.text_cons (by decide)
  | function name args =>
      have hargs : ∀ arg ∈ args, known.Spells (arg.pieces known.dialect) :=
        fun arg harg => hchild (.expr arg) (List.mem_map_of_mem harg)
      have hname : known.Spells [.text name] :=
        Spells.plain (Text.isPlain_of_isWord hplain)
      have hclosed : known.Spells (Piece.commaSeparated
          (Expr.listPieces known.dialect args) ++ [Piece.text ")"]) :=
        (spells_exprs hargs).append_text (by decide)
      rw [Expr.pieces]
      exact hname.between hclosed (by decide)

theorem spells_condition {condition : Condition}
    (hplain : (Node.condition condition).isPlain = true)
    (hchild : ∀ child ∈ (Node.condition condition).children,
      known.Spells (child.pieces known.dialect)) :
    known.Spells (condition.pieces known.dialect) := by
  cases condition with
  | comparison left comparator right =>
      have hleft := hchild (.expr left) List.mem_cons_self
      have hright := hchild (.expr right) (Condition.right_mem_children rfl)
      have hcomparator : known.Spells [.text comparator.sql] :=
        Spells.plain (by cases comparator <;> decide)
      have hafter : known.Spells ([Piece.text comparator.sql] ++
          Piece.text " " :: right.pieces known.dialect) :=
        hcomparator.between hright (by decide)
      rw [Condition.pieces]
      exact hleft.between hafter (by decide)
  | like left right =>
      have hleft := hchild (.expr left) List.mem_cons_self
      have hright := hchild (.expr right) (Condition.right_mem_children rfl)
      rw [Condition.pieces]
      exact hleft.between hright (by decide)
  | inList left args negated =>
      have hleft := hchild (.expr left) List.mem_cons_self
      have hargs : ∀ arg ∈ args, known.Spells (arg.pieces known.dialect) :=
        fun arg harg => hchild (.expr arg)
          (List.mem_cons_of_mem _ (List.mem_map_of_mem harg))
      have hlist := (spells_exprs hargs).parenthesisedIf
        (!isLoneSubSelect args)
      rw [Condition.pieces]
      cases negated with
      | false => exact hleft.between hlist (by decide)
      | true => exact hleft.between hlist (by decide)
  | isNull operand negated =>
      have hoperand := hchild (.expr operand) List.mem_cons_self
      rw [Condition.pieces]
      cases negated with
      | false => exact hoperand.append_text (by decide)
      | true => exact hoperand.append_text (by decide)
  | nested inner =>
      have hinner := hchild (.condition inner) List.mem_cons_self
      rw [Condition.pieces]
      exact hinner.parenthesised
  | raw text => cases hplain
  | and left right =>
      have hleft := hchild (.condition left) List.mem_cons_self
      have hright := hchild (.condition right)
        (Condition.right_mem_children rfl)
      rw [Condition.pieces]
      exact (hleft.parenthesisedIf left.isOr).between
        (hright.parenthesisedIf right.isOr) (by decide)
  | or left right =>
      have hleft := hchild (.condition left) List.mem_cons_self
      have hright := hchild (.condition right)
        (Condition.right_mem_children rfl)
      rw [Condition.pieces]
      exact (hleft.parenthesisedIf left.isAnd).between
        (hright.parenthesisedIf right.isAnd) (by decide)
  | not inner =>
      have hinner := hchild (.condition inner) List.mem_cons_self
      rw [Condition.pieces]
      exact (hinner.parenthesisedIf inner.needsParenthesesAfterNot).text_cons
        (by decide)

theorem spells_orderField {field : OrderField}
    (h : known.Spells (field.expr.pieces known.dialect)) :
    known.Spells (field.pieces known.dialect) := by
  obtain ⟨expr, direction, nulls⟩ := field
  have hword : ∀ {pieces : List Piece} {word : String},
      known.Spells pieces → Text.isPlain word = true →
      known.Spells (pieces ++ [Piece.text " ", .text word]) :=
    fun hpieces hword => hpieces.between (.plain hword) (by decide)
  have hdirection : ∀ direction : Direction,
      Text.isPlain direction.sql = true := by
    intro direction
    cases direction <;> decide
  have hnulls : ∀ nulls : NullOrder, Text.isPlain nulls.sql = true := by
    intro nulls
    cases nulls <;> decide
  unfold OrderField.pieces
  cases direction with
  | none =>
      cases nulls with
      | none => simpa using h
      | some nulls => simpa using hword h (hnulls nulls)
  | some direction =>
      have hdirected := hword h (hdirection direction)
      cases nulls with
      | none => simpa using hdirected
      | some nulls => simpa using hword hdirected (hnulls nulls)

theorem spells_join {join : Join}
    (h : known.Spells (join.on.pieces known.dialect)) :
    known.Spells (join.pieces known.dialect) := by
  obtain ⟨kind, table, on⟩ := join
  have hkind : known.Spells [.text kind.sql] :=
    Spells.plain (by cases kind <;> decide)
  have htable : known.Spells
      ([Piece.text kind.sql] ++ Piece.text " " :: table.pieces known.dialect) :=
    hkind.between (spells_table table) (by decide)
  have hjoin : known.Spells
      (([Piece.text kind.sql] ++
          Piece.text " " :: table.pieces known.dialect) ++
        Piece.text " ON " :: on.pieces known.dialect) :=
    htable.between h (by decide)
  unfold Join.pieces
  exact hjoin

/-! ## The whole statement -/

theorem Spells.append_joins {before : List Piece} {joins : List Join}
    (hbefore : known.Spells before)
    (hjoins : ∀ join ∈ joins, known.Spells (join.pieces known.dialect)) :
    known.Spells (before ++ Join.listPieces known.dialect joins) := by
  induction joins generalizing before with
  | nil => simpa [Join.listPieces] using hbefore
  | cons join joins ih =>
      have hjoin : known.Spells
          (before ++ Piece.text " " :: join.pieces known.dialect) :=
        hbefore.between (hjoins join List.mem_cons_self) (by decide)
      have hrest := ih hjoin fun j hj =>
        hjoins j (List.mem_cons_of_mem join hj)
      rw [Join.listPieces]
      simpa [List.append_assoc] using hrest

theorem Spells.append_where {before : List Piece} {filter : Option Condition}
    (hbefore : known.Spells before)
    (hfilter : ∀ condition ∈ filter,
      known.Spells (condition.pieces known.dialect)) :
    known.Spells (before ++ Condition.wherePieces known.dialect filter) := by
  cases filter with
  | none => simpa [Condition.wherePieces] using hbefore
  | some condition =>
      rw [Condition.wherePieces]
      exact hbefore.between (hfilter condition rfl) (by decide)

theorem spells_orderSection {order : Option (List Piece)}
    {limit offset : Option UInt64}
    (horder : ∀ pieces ∈ order, known.Spells pieces) :
    ∀ pieces ∈ known.orderSection? order limit offset,
      known.Spells pieces := by
  intro pieces hpieces
  cases order with
  | some order => exact horder pieces hpieces
  | none =>
      cases hpaging : known.dialect.paging limit offset with
      | none => simp [orderSection?, hpaging] at hpieces
      | some text =>
          simp only [orderSection?, hpaging] at hpieces
          obtain ⟨added, hadded, rfl⟩ := Option.map_eq_some_iff.mp hpieces
          have hplain : Text.isPlain added = true := by
            cases known <;> cases hadded
            decide
          exact .plain hplain

theorem Spells.append_tail {before : List Piece} {order : Option (List Piece)}
    {limit offset : Option UInt64} (hbefore : known.Spells before)
    (horder : ∀ pieces ∈ order, known.Spells pieces) :
    known.Spells (before ++ known.dialect.tail order limit offset) := by
  have hpaging : ∀ pieces ∈ (known.dialect.paging limit offset).map
      fun text => [Piece.text text], known.Spells pieces := by
    intro pieces hpieces
    obtain ⟨text, htext, rfl⟩ := Option.map_eq_some_iff.mp hpieces
    exact .plain (known.isPlain_paging htext)
  rw [known.tail_eq, ← List.append_assoc]
  exact (hbefore.append_spaced (spells_orderSection horder)).append_spaced
    hpaging

theorem spells_orderBy {fields : List OrderField}
    (h : fields ≠ [] → known.Spells (Piece.commaSeparated
      (fields.map (OrderField.pieces known.dialect)))) :
    ∀ pieces ∈ OrderField.orderByPieces known.dialect fields,
      known.Spells pieces := by
  intro pieces hpieces
  cases fields with
  | nil => simp [OrderField.orderByPieces] at hpieces
  | cons field fields =>
      rw [OrderField.orderByPieces, OrderField.listPieces_eq_map,
        ← List.map_cons, Option.mem_some_iff] at hpieces
      rw [← hpieces]
      exact (h (List.cons_ne_nil field fields)).text_cons (by decide)

theorem spells_select {select : Select}
    (hchild : ∀ child ∈ (Node.select select).children,
      known.Spells (child.pieces known.dialect)) :
    known.Spells (select.pieces known.dialect) := by
  have hjoins : ∀ join ∈ select.joins,
      known.Spells (join.pieces known.dialect) :=
    fun join hjoin => hchild (.join join) (Select.join_mem_children hjoin)
  have hfilter : ∀ condition ∈ select.filter,
      known.Spells (condition.pieces known.dialect) :=
    fun condition hcondition =>
      hchild (.filter condition) (Select.filter_mem_children hcondition)
  have horder : ∀ pieces ∈
      OrderField.orderByPieces known.dialect select.order,
      known.Spells pieces := by
    apply spells_orderBy
    intro hne
    exact hchild (.order select.order) (by simp [Node.children, hne])
  have hitems : known.Spells (Piece.commaSeparated
      (Expr.listPieces known.dialect select.items)) := by
    rw [Expr.listPieces_eq_map]
    exact hchild (.items select.items) List.mem_cons_self
  have htables : known.Spells (Piece.commaSeparated
      (select.tables.map (Table.pieces known.dialect))) :=
    hchild (.tables select.tables) (List.mem_cons_of_mem _ List.mem_cons_self)
  obtain ⟨distinct, items, tables, joins, filter, order, limit, offset⟩ :=
    select
  have hselected : known.Spells
      (Piece.text (if distinct then "SELECT DISTINCT " else "SELECT ") ::
        Piece.commaSeparated (Expr.listPieces known.dialect items)) := by
    cases distinct with
    | false => exact hitems.text_cons (by decide)
    | true => exact hitems.text_cons (by decide)
  have hfrom : known.Spells
      (Piece.text (if distinct then "SELECT DISTINCT " else "SELECT ") ::
        Piece.commaSeparated (Expr.listPieces known.dialect items) ++
        Piece.text " FROM " ::
          Piece.commaSeparated (tables.map (Table.pieces known.dialect))) :=
    hselected.between htables (by decide)
  rw [Select.pieces]
  exact ((hfrom.append_joins hjoins).append_where hfilter).append_tail horder

theorem spells_node (known : Known) {node : Node}
    (h : node.Throughout Node.isPlain) :
    known.Spells (node.pieces known.dialect) := by
  induction node using Node.inductionOn with
  | step node ih =>
      have hchild : ∀ child ∈ node.children,
          known.Spells (child.pieces known.dialect) :=
        fun child hmem => ih child hmem (h.of_mem_children hmem)
      cases node with
      | select select => exact spells_select hchild
      | items items =>
          apply Spells.commaSeparated
          exact List.forall_mem_map.mpr fun item hitem =>
            hchild (.expr item) (List.mem_map_of_mem hitem)
      | tables tables =>
          apply Spells.commaSeparated
          exact List.forall_mem_map.mpr fun table _ => spells_table table
      | join join =>
          exact spells_join (hchild (.condition join.on)
            (List.mem_cons_of_mem _ List.mem_cons_self))
      | filter condition =>
          exact hchild (.condition condition) List.mem_cons_self
      | order fields =>
          apply Spells.commaSeparated
          exact List.forall_mem_map.mpr fun field hfield =>
            hchild (.orderField field) (List.mem_map_of_mem hfield)
      | orderField field =>
          exact spells_orderField (hchild (.expr field.expr) List.mem_cons_self)
      | table table => exact spells_table table
      | expr expr => exact spells_expr h.self hchild
      | condition condition => exact spells_condition h.self hchild

end Dialect.Known

/-- What is rendered with all names quoted has the lexemes of its pieces. -/
theorem Select.Obtainable.lexemes?_render {select : Select}
    (h : select.Obtainable)
    (hplain : (Node.select select).Throughout Node.isPlain)
    (known : Dialect.Known) :
    ∃ text, known.quotingAll.renderSelect select = .ok text ∧
      lexemes? known.dialect.quote text.toList =
        some (Piece.lexemesOf (select.pieces known.dialect)) := by
  have hspells := known.spells_node hplain
  rw [Node.pieces] at hspells
  exact ⟨_, known.quotingAll.renderSelect_eq select h, hspells⟩

end SqlStatement
