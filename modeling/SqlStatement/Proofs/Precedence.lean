import Mathlib.Tactic

/-!
# The precedence of NOT, AND and OR

A condition in a statement is read as a sequence of connectives, parentheses
and leaves.  NOT binds tighter than AND, AND binds tighter than OR, both
associate to the left, and parentheses group.  This file gives that grammar
as a relation and shows that it is unambiguous: a reader which goes through
the sequence once, with a stack for the open parentheses, finds every formula
that the grammar admits.

Formulas have one of three truth values, since a comparison with a missing
value is neither true nor false.
-/

namespace SqlStatement

inductive Truth where
  | fails
  | unknown
  | holds
deriving DecidableEq

namespace Truth

def not : Truth → Truth
  | fails => holds
  | unknown => unknown
  | holds => fails

/-- The lesser of the two values. -/
def and : Truth → Truth → Truth
  | fails, _ => fails
  | _, fails => fails
  | holds, holds => holds
  | _, _ => unknown

/-- The greater of the two values. -/
def or : Truth → Truth → Truth
  | holds, _ => holds
  | _, holds => holds
  | fails, fails => fails
  | _, _ => unknown

theorem and_assoc (a b c : Truth) : (a.and b).and c = a.and (b.and c) := by
  cases a <;> cases b <;> cases c <;> rfl

theorem or_assoc (a b c : Truth) : (a.or b).or c = a.or (b.or c) := by
  cases a <;> cases b <;> cases c <;> rfl

end Truth

inductive Formula (α : Type) where
  | leaf (leaf : α)
  | not (inner : Formula α)
  | and (left right : Formula α)
  | or (left right : Formula α)

def Formula.value (assignment : α → Truth) : Formula α → Truth
  | leaf a => assignment a
  | not f => (f.value assignment).not
  | and f g => (f.value assignment).and (g.value assignment)
  | or f g => (f.value assignment).or (g.value assignment)

inductive Token (α : Type) where
  | leaf (leaf : α)
  | not
  | and
  | or
  | opening
  | closing

def Token.leaf? : Token α → Option α
  | leaf a => some a
  | _ => none

/-! ## The grammar -/

/-- What may stand where: next to NOT only an operand, between ANDs only
conjunctions, between ORs and in parentheses everything. -/
inductive Level where
  | operand
  | conjunction
  | disjunction

inductive Reads : Level → List (Token α) → Formula α → Prop where
  | leaf (a : α) : Reads .operand [.leaf a] (.leaf a)
  | parenthesised {tokens : List (Token α)} {f : Formula α}
      (h : Reads .disjunction tokens f) :
      Reads .operand (.opening :: tokens ++ [.closing]) f
  | not {tokens : List (Token α)} {f : Formula α}
      (h : Reads .operand tokens f) :
      Reads .operand (.not :: tokens) (.not f)
  | ofOperand {tokens : List (Token α)} {f : Formula α}
      (h : Reads .operand tokens f) :
      Reads .conjunction tokens f
  | and {before after : List (Token α)} {f g : Formula α}
      (hbefore : Reads .conjunction before f)
      (hafter : Reads .operand after g) :
      Reads .conjunction (before ++ .and :: after) (.and f g)
  | ofConjunction {tokens : List (Token α)} {f : Formula α}
      (h : Reads .conjunction tokens f) :
      Reads .disjunction tokens f
  | or {before after : List (Token α)} {f g : Formula α}
      (hbefore : Reads .disjunction before f)
      (hafter : Reads .conjunction after g) :
      Reads .disjunction (before ++ .or :: after) (.or f g)

/-! ## Reading in one pass -/

/-- A formula with one more operand to its right, if there is anything to its
left. -/
def Formula.extend (connective : Formula α → Formula α → Formula α)
    (left : Option (Formula α)) (right : Formula α) : Formula α :=
  match left with
  | none => right
  | some left => connective left right

/-- NOT so many times in front of a formula. -/
def Formula.negate : ℕ → Formula α → Formula α
  | 0, f => f
  | n + 1, f => negate n (.not f)

/-- What was read since the last open parenthesis: all up to the last OR, all
from there to the last AND, and the NOTs after that. -/
structure Pending (α : Type) where
  disjuncts : Option (Formula α)
  conjuncts : Option (Formula α)
  nots : ℕ

def Pending.start : Pending α :=
  ⟨none, none, 0⟩

/-- The formula that ends with the operand `f`. -/
def Pending.whole (pending : Pending α) (f : Formula α) : Formula α :=
  .extend .or pending.disjuncts (.extend .and pending.conjuncts f)

/-- The state of the reader; there is an operand when the last token ended
one. -/
structure Reader (α : Type) where
  pending : Pending α
  enclosing : List (Pending α)
  operand : Option (Formula α)

namespace Reader

def complete (pending : Pending α) (enclosing : List (Pending α))
    (f : Formula α) : Reader α :=
  ⟨{ pending with nots := 0 }, enclosing, some (.negate pending.nots f)⟩

def step : Reader α → Token α → Option (Reader α)
  | ⟨pending, enclosing, none⟩, .leaf a =>
      some (complete pending enclosing (.leaf a))
  | ⟨pending, enclosing, none⟩, .not =>
      some ⟨{ pending with nots := pending.nots + 1 }, enclosing, none⟩
  | ⟨pending, enclosing, none⟩, .opening =>
      some ⟨.start, pending :: enclosing, none⟩
  | ⟨pending, enclosing, some f⟩, .and =>
      some ⟨⟨pending.disjuncts, some (.extend .and pending.conjuncts f), 0⟩,
        enclosing, none⟩
  | ⟨pending, enclosing, some f⟩, .or =>
      some ⟨⟨some (pending.whole f), none, 0⟩, enclosing, none⟩
  | ⟨pending, outer :: enclosing, some f⟩, .closing =>
      some (complete outer enclosing (pending.whole f))
  | _, _ => none

/-- The formula, if all parentheses are closed and the last token ended an
operand. -/
def formula? : Reader α → Option (Formula α)
  | ⟨pending, [], some f⟩ => some (pending.whole f)
  | _ => none

def read (tokens : List (Token α)) : Option (Formula α) :=
  tokens.foldlM step ⟨.start, [], none⟩ >>= formula?

/-- What the reader does on the way through a text that the grammar admits at
some level. -/
def Follows (tokens : List (Token α)) (f : Formula α) : Level → Prop
  | .operand => ∀ pending enclosing,
      tokens.foldlM step ⟨pending, enclosing, none⟩ =
        some (complete pending enclosing f)
  | .conjunction => ∀ disjuncts enclosing, ∃ conjuncts g,
      .extend .and conjuncts g = f ∧
        tokens.foldlM step ⟨⟨disjuncts, none, 0⟩, enclosing, none⟩ =
          some ⟨⟨disjuncts, conjuncts, 0⟩, enclosing, some g⟩
  | .disjunction => ∀ enclosing, ∃ disjuncts conjuncts g,
      Pending.whole ⟨disjuncts, conjuncts, 0⟩ g = f ∧
        tokens.foldlM step ⟨.start, enclosing, none⟩ =
          some ⟨⟨disjuncts, conjuncts, 0⟩, enclosing, some g⟩

theorem follows_of_reads {level : Level} {tokens : List (Token α)}
    {f : Formula α} (h : Reads level tokens f) :
    Follows tokens f level := by
  induction h with
  | leaf a =>
      intro pending enclosing
      rfl
  | @parenthesised tokens f h ih =>
      intro pending enclosing
      obtain ⟨disjuncts, conjuncts, g, hwhole, hrun⟩ :=
        ih (pending :: enclosing)
      simp only [List.cons_append, List.foldlM_cons, step, Option.bind_eq_bind,
        Option.bind_some, List.foldlM_append, hrun, List.foldlM_nil]
      rw [hwhole]
      rfl
  | @not tokens f h ih =>
      intro pending enclosing
      simp only [List.foldlM_cons, step, Option.bind_eq_bind, Option.bind_some]
      rw [ih]
      rfl
  | @ofOperand tokens f h ih =>
      intro disjuncts enclosing
      exact ⟨none, f, rfl, ih _ _⟩
  | @and before after f g hbefore hafter ihbefore ihafter =>
      intro disjuncts enclosing
      obtain ⟨conjuncts, last, hlast, hrun⟩ := ihbefore disjuncts enclosing
      refine ⟨some f, g, rfl, ?_⟩
      simp only [List.foldlM_append, hrun, Option.bind_eq_bind,
        Option.bind_some, List.foldlM_cons, step, hlast]
      exact ihafter _ _
  | @ofConjunction tokens f h ih =>
      intro enclosing
      obtain ⟨conjuncts, g, hg, hrun⟩ := ih none enclosing
      exact ⟨none, conjuncts, g, hg, hrun⟩
  | @or before after f g hbefore hafter ihbefore ihafter =>
      intro enclosing
      obtain ⟨disjuncts, conjuncts, last, hlast, hrun⟩ := ihbefore enclosing
      obtain ⟨conjuncts', last', hlast', hrun'⟩ := ihafter (some f) enclosing
      refine ⟨some f, conjuncts', last', ?_, ?_⟩
      · rw [Pending.whole, hlast']
        rfl
      · simp only [List.foldlM_append, hrun, Option.bind_eq_bind,
          Option.bind_some, List.foldlM_cons, step, hlast]
        exact hrun'

/-- The reader finds what the grammar admits. -/
theorem read_eq_some_of_reads {tokens : List (Token α)} {f : Formula α}
    (h : Reads .disjunction tokens f) :
    read tokens = some f := by
  obtain ⟨disjuncts, conjuncts, g, hwhole, hrun⟩ := follows_of_reads h []
  simp only [read, hrun, Option.bind_eq_bind, Option.bind_some, formula?,
    hwhole]

end Reader

theorem Reads.unique {tokens : List (Token α)} {f g : Formula α}
    (hf : Reads .disjunction tokens f) (hg : Reads .disjunction tokens g) :
    f = g := by
  have hread := Reader.read_eq_some_of_reads hf
  rw [Reader.read_eq_some_of_reads hg] at hread
  exact (Option.some.inj hread).symm

end SqlStatement
