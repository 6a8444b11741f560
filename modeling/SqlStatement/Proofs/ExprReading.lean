import SqlStatement.Proofs.UniqueReading
import Mathlib

/-!
# Reading expressions

Which alternative an expression belongs to is told by its first lexemes.  So an
expression is unmistakable as soon as the statement in it is, or the arguments
of the call that it is.
-/

namespace SqlStatement

open Lexeme

/-! ## What is read exactly -/

/-- Nothing raw and no float, and what is written without quotes is a word. -/
def Node.isExact : Node → Bool
  | expr (.literal value) => !value.isFloat
  | node => node.isPlain

theorem Node.isPlain_of_isExact {node : Node} (h : node.isExact = true) :
    node.isPlain = true := by
  unfold isExact at h
  split at h
  · rfl
  · exact h

def Expr.Exact (expr : Expr) : Prop :=
  (Node.expr expr).Throughout Node.isExact

def Condition.Exact (condition : Condition) : Prop :=
  (Node.condition condition).Throughout Node.isExact

def Select.Exact (select : Select) : Prop :=
  (Node.select select).Throughout Node.isExact

theorem Expr.Exact.args {name : String} {args : List Expr}
    (h : (Expr.function name args).Exact) : ∀ arg ∈ args, arg.Exact :=
  fun _ harg => h.of_mem_children (List.mem_map_of_mem harg)

/-! ## Look-ahead -/

namespace Expr

inductive Alternative where
  | column
  | raw
  | asterisk
  | subSelect
  | literal
  | bind
  | function

def alternative : Expr → Alternative
  | column _ => .column
  | raw _ => .raw
  | asterisk _ => .asterisk
  | subSelect _ => .subSelect
  | literal _ => .literal
  | bind _ => .bind
  | function _ _ => .function

/-- The alternative that the next lexemes belong to. -/
def Alternative.ahead : List Lexeme → Alternative
  | .name _ :: _ :: .mark _ :: _ => asterisk
  | .name _ :: _ => column
  | .string _ :: _ => literal
  | .word _ :: .mark '(' :: _ => function
  | .word _ :: _ => literal
  | .mark '*' :: _ => asterisk
  | .mark '(' :: _ => subSelect
  | .mark '-' :: _ => literal
  | _ => bind

theorem ahead_of_word {word : String} {rest : List Lexeme}
    (hrest : noCall rest = true) :
    Alternative.ahead (.word word :: rest) = .literal := by
  cases rest with
  | nil => rfl
  | cons lexeme rest =>
      unfold Alternative.ahead
      split <;> simp_all [noCall]

/-- How the expressions that are read exactly are written. -/
inductive Written (known : Dialect.Known) : Expr → List Lexeme → Prop
  | column (c : Column) :
      Written known (.column c)
        [.name c.table.reference.name, .mark '.', .name c.name.name]
  | asterisk : Written known (.asterisk none) [.mark '*']
  | tableAsterisk (table : Table) :
      Written known (.asterisk (some table))
        [.name table.reference.name, .mark '.', .mark '*']
  | subSelect (select : Select) :
      Written known (.subSelect select)
        (.mark '(' :: (select.lexemes known ++ [.mark ')']))
  | natural (value : Int64) (n : Nat) :
      Written known (.literal (.integer value)) [.word n.repr]
  | negative (value : Int64) (n : Nat) :
      Written known (.literal (.integer value)) [.mark '-', .word n.repr]
  | string (value : String) :
      Written known (.literal (.string value)) [.string value]
  | boolean (value : Bool) :
      Written known (.literal (.boolean value))
        [.word (if value then "TRUE" else "FALSE")]
  | null : Written known (.literal .null) [.word "NULL"]
  | bind : Written known (.bind none) [.mark '?']
  | namedBind (name : Identifier) :
      Written known (.bind (some name)) [.mark ':', .word name.name]
  | function (name : String) (args : List Expr) :
      Written known (.function name args)
        (.word name :: .mark '(' ::
          (separated comma (args.map (lexemes known)) ++ [.mark ')']))

theorem Exact.written (known : Dialect.Known) {expr : Expr}
    (h : expr.Exact) : expr.Written known (expr.lexemes known) := by
  have hself : (Node.expr expr).isExact = true := h.self
  cases expr with
  | column column =>
      rw [lexemes_column]
      exact .column column
  | raw text => cases hself
  | asterisk table =>
      cases table with
      | none =>
          rw [lexemes_asterisk]
          exact .asterisk
      | some table =>
          rw [lexemes_tableAsterisk]
          exact .tableAsterisk table
  | subSelect select =>
      rw [lexemes_subSelect]
      exact .subSelect select
  | literal value =>
      rw [lexemes_literal]
      cases value with
      | integer value =>
          rw [Literal.lexemes_integer]
          cases value.toInt with
          | ofNat n => exact .natural value n
          | negSucc n => exact .negative value n.succ
      | float value => cases hself
      | string value => exact .string value
      | boolean value =>
          rw [Literal.lexemes_boolean]
          exact .boolean value
      | null => exact .null
  | bind name =>
      cases name with
      | none =>
          rw [lexemes_bind]
          exact .bind
      | some name =>
          rw [lexemes_namedBind known hself]
          exact .namedBind name
  | function name args =>
      rw [lexemes_function known hself]
      exact .function name args

section Written

variable {known : Dialect.Known} {expr : Expr} (hexpr : expr.Exact)

include hexpr

theorem Exact.alternative_ahead {rest : List Lexeme}
    (hrest : noCall rest = true) :
    Alternative.ahead (expr.lexemes known ++ rest) = expr.alternative := by
  have hwritten := hexpr.written known
  generalize expr.lexemes known = lexemes at hwritten
  cases hwritten with
  | natural | boolean | null => exact ahead_of_word hrest
  | _ => rfl

/-- No expression begins like what may follow a list of them. -/
theorem Exact.not_stopsAt (words : List String) (rest : List Lexeme) :
    stopsAt [')'] words (expr.lexemes known ++ rest) = false := by
  have hwritten := hexpr.written known
  generalize expr.lexemes known = lexemes at hwritten
  cases hwritten <;> rfl

end Written

/-- Only a statement begins with a parenthesis. -/
theorem Exact.exists_subSelect {known : Dialect.Known} {expr : Expr}
    (hexpr : expr.Exact) {rest after : List Lexeme}
    (heq : expr.lexemes known ++ rest = .mark '(' :: after) :
    ∃ select, expr = .subSelect select := by
  have hwritten := hexpr.written known
  generalize expr.lexemes known = lexemes at hwritten heq
  cases hwritten with
  | subSelect select => exact ⟨select, rfl⟩
  | _ => simp at heq

/-- The words of a statement that stand where an expression may, too. -/
def keywords : List String :=
  ["SELECT", "DISTINCT", "NOT"]

/-- A word and a space after it are an expression only if the word is a
literal. -/
theorem Exact.not_keyword {known : Dialect.Known} {expr : Expr}
    (hexpr : expr.Exact) {word : String} {rest after : List Lexeme}
    (heq : expr.lexemes known ++ rest = .word word :: .mark ' ' :: after) :
    word ∉ keywords := by
  have hwritten := hexpr.written known
  generalize expr.lexemes known = lexemes at hwritten heq
  cases hwritten with
  | natural value n =>
      obtain rfl : n.repr = word := by simpa using congrArg List.head? heq
      have hselect : n.repr ≠ "SELECT" := Literal.repr_ne n (by decide)
      have hdistinct : n.repr ≠ "DISTINCT" := Literal.repr_ne n (by decide)
      have hnot : n.repr ≠ "NOT" := Literal.repr_ne n (by decide)
      simp [keywords, hselect, hdistinct, hnot]
  | boolean value =>
      obtain rfl : (if value then "TRUE" else "FALSE") = word := by
        simpa using congrArg List.head? heq
      cases value <;> decide
  | null =>
      obtain rfl : "NULL" = word := by simpa using congrArg List.head? heq
      decide
  | _ => simp at heq

end Expr

/-! ## Expressions -/

section Clear

variable (known : Dialect.Known)

def Expr.Clear (expr : Expr) : Prop :=
  Unmistakable (Expr.lexemes known) (Expr.normal known) Expr.Exact noCall expr

def Select.Clear (select : Select) : Prop :=
  Unmistakable (Select.lexemes known) (Select.normal known) Select.Exact
    (stopsAt [')'] []) select

end Clear

namespace Expr

variable {known : Dialect.Known}

theorem delimits :
    Unmistakable.Delimits (lexemes known) Exact noCall (stopsAt [')'] ["FROM"])
      comma where
  stops_separator _ _ _ := rfl
  stops_of_ends _ hrest := noCall_of_stopsAt (by decide) hrest
  not_ends_separator _ _ _ := rfl

theorem list_unmistakable {exprs : List Expr}
    (hexact : ∀ expr ∈ exprs, expr.Exact)
    (hclear : ∀ expr ∈ exprs, expr.Clear known) :
    Unmistakable (fun exprs => separated comma (exprs.map (lexemes known)))
      (List.map (normal known)) (fun exprs => ∀ expr ∈ exprs, expr.Exact)
      (stopsAt [')'] ["FROM"]) exprs :=
  .separated delimits (fun _ hexpr => hexpr.not_stopsAt ["FROM"])
    hexact hclear

/-- A list of expressions does not begin like a statement, either. -/
theorem not_keyword_of_list {exprs : List Expr}
    (hexact : ∀ expr ∈ exprs, expr.Exact) {word : String} {mark : Char}
    {rest after : List Lexeme}
    (heq : separated comma (exprs.map (lexemes known)) ++
        Lexeme.mark mark :: rest =
      .word word :: .mark ' ' :: after) : word ∉ keywords := by
  cases exprs with
  | nil => simp [separated] at heq
  | cons expr exprs =>
      have hexpr : expr.Exact := hexact expr List.mem_cons_self
      rw [List.map_cons, separated, List.append_assoc] at heq
      exact hexpr.not_keyword heq

theorem alternative_eq {expr other : Expr} (hexpr : expr.Exact)
    (hother : other.Exact) {rest rest' : List Lexeme}
    (hrest : noCall rest = true) (hrest' : noCall rest' = true)
    (heq : expr.lexemes known ++ rest = other.lexemes known ++ rest') :
    expr.alternative = other.alternative := by
  have hahead : Alternative.ahead (expr.lexemes known ++ rest) =
      expr.alternative := hexpr.alternative_ahead hrest
  rw [← hahead, heq, hother.alternative_ahead hrest']

theorem column_clear {column : Column} (hexact : (Expr.column column).Exact) :
    (Expr.column column).Clear known := by
  intro other hother rest rest' hrest hrest' heq
  have halternative := alternative_eq hexact hother hrest hrest' heq
  cases other with
  | column other =>
      simp only [lexemes_column, List.cons_append, List.nil_append,
        List.cons.injEq, Lexeme.name.injEq, true_and] at heq
      obtain ⟨htable, hname, hend⟩ := heq
      refine ⟨?_, hend⟩
      rw [normal, normal, Column.normal, Column.normal, Table.referred,
        Table.referred, Identifier.bare_eq_bare_iff.mpr htable,
        Identifier.bare_eq_bare_iff.mpr hname]
  | _ => cases halternative

theorem asterisk_clear {table : Option Table}
    (hexact : (Expr.asterisk table).Exact) :
    (Expr.asterisk table).Clear known := by
  intro other hother rest rest' hrest hrest' heq
  have halternative := alternative_eq hexact hother hrest hrest' heq
  cases other with
  | asterisk other =>
      cases table with
      | none =>
          cases other with
          | none => exact ⟨rfl, List.append_cancel_left heq⟩
          | some other => simp [lexemes_asterisk, lexemes_tableAsterisk] at heq
      | some table =>
          cases other with
          | none => simp [lexemes_asterisk, lexemes_tableAsterisk] at heq
          | some other =>
              simp only [lexemes_tableAsterisk, List.cons_append,
                List.nil_append, List.cons.injEq, Lexeme.name.injEq,
                true_and] at heq
              refine ⟨?_, heq.2⟩
              rw [normal, normal, Option.map_some, Option.map_some,
                Table.referred, Table.referred,
                Identifier.bare_eq_bare_iff.mpr heq.1]
  | _ => cases halternative

theorem subSelect_clear {select : Select}
    (hexact : (Expr.subSelect select).Exact) (hclear : select.Clear known) :
    (Expr.subSelect select).Clear known := by
  intro other hother rest rest' hrest hrest' heq
  have halternative := alternative_eq hexact hother hrest hrest' heq
  cases other with
  | subSelect other =>
      have hotherSelect : other.Exact :=
        hother.of_mem_children List.mem_cons_self
      simp only [lexemes_subSelect, List.cons_append, List.append_assoc,
        List.nil_append, List.cons.injEq, true_and] at heq
      obtain ⟨hnormal, hend⟩ := hclear other hotherSelect _ _ rfl rfl heq
      exact ⟨congrArg Expr.subSelect hnormal, List.tail_eq_of_cons_eq hend⟩
  | _ => cases halternative

theorem literal_clear {value : Literal} (hexact : (Expr.literal value).Exact) :
    (Expr.literal value).Clear known := by
  intro other hother rest rest' hrest hrest' heq
  have halternative := alternative_eq hexact hother hrest hrest' heq
  have hfloat : ∀ value, (Expr.literal value).Exact →
      value.isFloat = false := by
    intro value h
    simpa [Node.isExact] using h.self
  cases other with
  | literal other =>
      rw [lexemes_literal, lexemes_literal] at heq
      obtain ⟨hnormal, hend⟩ := Literal.unmistakable (hfloat value hexact)
        other (hfloat other hother) rest rest' rfl rfl heq
      exact ⟨congrArg Expr.literal hnormal, hend⟩
  | _ => cases halternative

theorem bind_clear {name : Option Identifier}
    (hexact : (Expr.bind name).Exact) : (Expr.bind name).Clear known := by
  intro other hother rest rest' hrest hrest' heq
  have halternative := alternative_eq hexact hother hrest hrest' heq
  have hword : ∀ name, (Expr.bind (some name)).Exact →
      Text.isWord name.name = true := fun _ h => h.self
  cases other with
  | bind other =>
      cases name with
      | none =>
          cases other with
          | none => exact ⟨rfl, List.append_cancel_left heq⟩
          | some other =>
              rw [lexemes_bind, lexemes_namedBind known (hword other hother)]
                at heq
              cases heq
      | some name =>
          rw [lexemes_namedBind known (hword name hexact)] at heq
          cases other with
          | none =>
              rw [lexemes_bind] at heq
              cases heq
          | some other =>
              rw [lexemes_namedBind known (hword other hother)] at heq
              simp only [List.cons_append, List.nil_append, List.cons.injEq,
                true_and, Lexeme.word.injEq] at heq
              refine ⟨?_, heq.2⟩
              rw [normal, normal, Option.map_some, Option.map_some,
                Identifier.bare_eq_bare_iff.mpr heq.1]
  | _ => cases halternative

theorem function_clear {name : String} {args : List Expr}
    (hexact : (Expr.function name args).Exact)
    (hargs : ∀ arg ∈ args, arg.Clear known) :
    (Expr.function name args).Clear known := by
  intro other hother rest rest' hrest hrest' heq
  have halternative := alternative_eq hexact hother hrest hrest' heq
  cases other with
  | function otherName otherArgs =>
      have hname : Text.isWord name = true := hexact.self
      have hotherName : Text.isWord otherName = true := hother.self
      rw [lexemes_function known hname, lexemes_function known hotherName]
        at heq
      simp only [List.cons_append, List.append_assoc, List.nil_append,
        List.cons.injEq, Lexeme.word.injEq, true_and] at heq
      obtain ⟨rfl, hrests⟩ := heq
      obtain ⟨hnormals, hend⟩ := list_unmistakable hexact.args hargs
        otherArgs hother.args _ _ rfl rfl hrests
      refine ⟨?_, List.tail_eq_of_cons_eq hend⟩
      rw [normal, normal, listNormal_eq_map, listNormal_eq_map, hnormals]
  | _ => cases halternative

theorem clear_of_children {expr : Expr} (hexact : expr.Exact)
    (hselect : ∀ select, expr = .subSelect select → select.Clear known)
    (hargs : ∀ name args, expr = .function name args →
      ∀ arg ∈ args, arg.Clear known) :
    expr.Clear known := by
  cases expr with
  | column column => exact column_clear hexact
  | raw text => cases hexact.self
  | asterisk table => exact asterisk_clear hexact
  | subSelect select => exact subSelect_clear hexact (hselect select rfl)
  | literal value => exact literal_clear hexact
  | bind name => exact bind_clear hexact
  | function name args => exact function_clear hexact (hargs name args rfl)

end Expr

end SqlStatement
