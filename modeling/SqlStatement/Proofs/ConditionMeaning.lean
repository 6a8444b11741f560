import SqlStatement.Proofs.Precedence
import SqlStatement.Proofs.Rendering
import SqlStatement.Proofs.TreeInduction
import Mathlib.Tactic

/-!
# The meaning of a rendered condition

The leaves of a condition, that is, all but AND, OR, NOT and nested conditions,
are numbered from left to right, so that each occurrence can have a truth value
of its own.  The text of a condition is a sequence of tokens over its leaves,
and whoever reads it with the usual precedence arrives at a formula that means
what the tree means.

It need not be the tree itself.  Of `a AND (b AND c)` nothing but
`a AND b AND c` is written, which is read with the first two parts together.
-/

namespace SqlStatement

namespace Condition

def leaves : Condition → List Condition
  | .nested inner => inner.leaves
  | .and left right => left.leaves ++ right.leaves
  | .or left right => left.leaves ++ right.leaves
  | .not inner => inner.leaves
  | .comparison left comparator right => [.comparison left comparator right]
  | .like left right => [.like left right]
  | .inList left args negated => [.inList left args negated]
  | .isNull operand negated => [.isNull operand negated]
  | .raw text => [.raw text]

/-- The truth value of a condition whose leaves are numbered from `first`. -/
def value (assignment : Condition × ℕ → Truth) (first : ℕ) :
    Condition → Truth
  | .nested inner => inner.value assignment first
  | .and left right =>
      (left.value assignment first).and
        (right.value assignment (first + left.leaves.length))
  | .or left right =>
      (left.value assignment first).or
        (right.value assignment (first + left.leaves.length))
  | .not inner => (inner.value assignment first).not
  | .comparison left comparator right =>
      assignment (.comparison left comparator right, first)
  | .like left right => assignment (.like left right, first)
  | .inList left args negated => assignment (.inList left args negated, first)
  | .isNull operand negated => assignment (.isNull operand negated, first)
  | .raw text => assignment (.raw text, first)

end Condition

def Token.group (wrap : Bool) (tokens : List (Token α)) : List (Token α) :=
  if wrap then .opening :: tokens ++ [.closing] else tokens

namespace Condition

def tokens (first : ℕ) : Condition → List (Token (Condition × ℕ))
  | .nested inner => .opening :: inner.tokens first ++ [.closing]
  | .and left right =>
      Token.group left.isOr (left.tokens first) ++
        .and :: Token.group right.isOr
          (right.tokens (first + left.leaves.length))
  | .or left right =>
      Token.group left.isAnd (left.tokens first) ++
        .or :: Token.group right.isAnd
          (right.tokens (first + left.leaves.length))
  | .not inner =>
      .not :: Token.group inner.needsParenthesesAfterNot (inner.tokens first)
  | .comparison left comparator right =>
      [.leaf (.comparison left comparator right, first)]
  | .like left right => [.leaf (.like left right, first)]
  | .inList left args negated => [.leaf (.inList left args negated, first)]
  | .isNull operand negated => [.leaf (.isNull operand negated, first)]
  | .raw text => [.leaf (.raw text, first)]

end Condition

/-! ## Tokens as text -/

namespace Style

variable (style : Style)

def token : Token (Condition × ℕ) → String
  | .leaf (condition, _) => style.condition condition
  | .not => "NOT "
  | .and => " AND "
  | .or => " OR "
  | .opening => "("
  | .closing => ")"

def spell (tokens : List (Token (Condition × ℕ))) : String :=
  String.join (tokens.map style.token)

@[simp] theorem spell_nil : style.spell [] = "" :=
  rfl

@[simp] theorem spell_cons (token : Token (Condition × ℕ))
    (tokens : List (Token (Condition × ℕ))) :
    style.spell (token :: tokens) =
      style.token token ++ style.spell tokens := by
  simp [spell]

@[simp] theorem spell_append (before after : List (Token (Condition × ℕ))) :
    style.spell (before ++ after) =
      style.spell before ++ style.spell after := by
  simp [spell]

theorem spell_group {wrap : Bool} {condition : Condition}
    {tokens : List (Token (Condition × ℕ))}
    (h : style.spell tokens = style.condition condition) :
    style.spell (Token.group wrap tokens) = style.grouped wrap condition := by
  cases wrap with
  | false => exact h
  | true => simp [Token.group, grouped, token, h, String.append_assoc]

theorem spell_tokens (condition : Condition) (first : ℕ) :
    style.spell (condition.tokens first) = style.condition condition := by
  induction condition using Condition.inductionOn generalizing first with
  | nested inner ih =>
      rw [style.condition_eq]
      simp [Condition.tokens, conditionFromParts, token, ih,
        String.append_assoc]
  | and left right ihleft ihright | or left right ihleft ihright =>
      rw [style.condition_eq, Condition.tokens, spell_append, spell_cons,
        style.spell_group (ihleft first), style.spell_group (ihright _),
        conditionFromParts, String.append_assoc]
      rfl
  | not inner ih =>
      rw [style.condition_eq, Condition.tokens, spell_cons,
        style.spell_group (ih first)]
      rfl
  | _ => simp [Condition.tokens, token]

end Style

/-! ## Tokens as formulas -/

namespace Reads

/-- AND may be read from the left even where the right part is a conjunction
itself. -/
theorem exists_and {before after : List (Token α)} {f g : Formula α}
    (hbefore : Reads .conjunction before f)
    (hafter : Reads .conjunction after g) :
    ∃ h, Reads .conjunction (before ++ .and :: after) h ∧
      ∀ assignment, h.value assignment =
        (f.value assignment).and (g.value assignment) := by
  generalize hlevel : Level.conjunction = level at hafter
  induction hafter with
  | ofOperand hoperand =>
      exact ⟨.and f _, .and hbefore hoperand, fun _ => rfl⟩
  | @and inner last g k hinner hlast ih _ =>
      obtain ⟨h, hreads, hvalue⟩ := ih hlevel
      refine ⟨.and h k, ?_, ?_⟩
      · have happend : before ++ Token.and :: (inner ++ .and :: last) =
            (before ++ .and :: inner) ++ .and :: last := by simp
        rw [happend]
        exact .and hreads hlast
      · intro assignment
        simp only [Formula.value, hvalue, Truth.and_assoc]
  | leaf | parenthesised | not | ofConjunction | or => cases hlevel

theorem exists_or {before after : List (Token α)} {f g : Formula α}
    (hbefore : Reads .disjunction before f)
    (hafter : Reads .disjunction after g) :
    ∃ h, Reads .disjunction (before ++ .or :: after) h ∧
      ∀ assignment, h.value assignment =
        (f.value assignment).or (g.value assignment) := by
  generalize hlevel : Level.disjunction = level at hafter
  induction hafter with
  | ofConjunction hconjunction =>
      exact ⟨.or f _, .or hbefore hconjunction, fun _ => rfl⟩
  | @or inner last g k hinner hlast ih _ =>
      obtain ⟨h, hreads, hvalue⟩ := ih hlevel
      refine ⟨.or h k, ?_, ?_⟩
      · have happend : before ++ Token.or :: (inner ++ .or :: last) =
            (before ++ .or :: inner) ++ .or :: last := by simp
        rw [happend]
        exact .or hreads hlast
      · intro assignment
        simp only [Formula.value, hvalue, Truth.or_assoc]
  | leaf | parenthesised | not | ofOperand | and => cases hlevel

theorem to_disjunction {level : Level} {tokens : List (Token α)}
    {f : Formula α} (h : Reads level tokens f) :
    Reads .disjunction tokens f := by
  cases level with
  | operand => exact .ofConjunction (.ofOperand h)
  | conjunction => exact .ofConjunction h
  | disjunction => exact h

end Reads

namespace Condition

/-- Where the tokens of a condition may stand without parentheses. -/
def level : Condition → Level
  | .and _ _ => .conjunction
  | .or _ _ => .disjunction
  | _ => .operand

variable {condition : Condition} {tokens : List (Token α)} {f : Formula α}

theorem reads_beside_and (h : Reads condition.level tokens f) :
    Reads .conjunction (Token.group condition.isOr tokens) f := by
  cases condition with
  | and left right => exact h
  | or left right => exact .ofOperand (.parenthesised h)
  | _ => exact .ofOperand h

theorem reads_beside_or (h : Reads condition.level tokens f) :
    Reads .disjunction (Token.group condition.isAnd tokens) f := by
  cases condition with
  | and left right =>
      exact .ofConjunction (.ofOperand (.parenthesised h.to_disjunction))
  | or left right => exact h
  | _ => exact h.to_disjunction

theorem reads_after_not (h : Reads condition.level tokens f) :
    Reads .operand
      (Token.group condition.needsParenthesesAfterNot tokens) f := by
  cases condition with
  | nested inner | raw text | not inner => exact h
  | _ => exact .parenthesised h.to_disjunction

theorem exists_reads (condition : Condition) (first : ℕ) :
    ∃ f, Reads condition.level (condition.tokens first) f ∧
      ∀ assignment, f.value assignment = condition.value assignment first := by
  induction condition using Condition.inductionOn generalizing first with
  | nested inner ih =>
      obtain ⟨f, hreads, hvalue⟩ := ih first
      exact ⟨f, .parenthesised hreads.to_disjunction, hvalue⟩
  | and left right ihleft ihright =>
      obtain ⟨f, hleft, hf⟩ := ihleft first
      obtain ⟨g, hright, hg⟩ := ihright (first + left.leaves.length)
      -- The right part may be a conjunction, too, and then `.and f g` is not
      -- what is read; all that is left of it is its value.
      obtain ⟨h, hreads, hvalue⟩ :=
        (reads_beside_and hleft).exists_and (reads_beside_and hright)
      refine ⟨h, hreads, ?_⟩
      intro assignment
      rw [hvalue, hf, hg, value]
  | or left right ihleft ihright =>
      obtain ⟨f, hleft, hf⟩ := ihleft first
      obtain ⟨g, hright, hg⟩ := ihright (first + left.leaves.length)
      obtain ⟨h, hreads, hvalue⟩ :=
        (reads_beside_or hleft).exists_or (reads_beside_or hright)
      refine ⟨h, hreads, ?_⟩
      intro assignment
      rw [hvalue, hf, hg, value]
  | not inner ih =>
      obtain ⟨f, hreads, hvalue⟩ := ih first
      refine ⟨.not f, .not (reads_after_not hreads), ?_⟩
      intro assignment
      rw [Formula.value, hvalue, value]
  | _ => exact ⟨.leaf _, .leaf _, fun _ => rfl⟩

/-! ## Leaves -/

theorem filterMap_group (wrap : Bool) (tokens : List (Token α)) :
    (Token.group wrap tokens).filterMap Token.leaf? =
      tokens.filterMap Token.leaf? := by
  cases wrap with
  | false => rfl
  | true => simp [Token.group, List.filterMap_cons, Token.leaf?]

theorem leaf_tokens (condition : Condition) (first : ℕ) :
    (condition.tokens first).filterMap Token.leaf? =
      condition.leaves.zipIdx first := by
  induction condition using Condition.inductionOn generalizing first with
  | nested inner ih =>
      simp [Condition.tokens, leaves, List.filterMap_cons, Token.leaf?, ih]
  | and left right ihleft ihright | or left right ihleft ihright =>
      simp [Condition.tokens, leaves, List.filterMap_cons, Token.leaf?,
        filterMap_group, ihleft, ihright, List.zipIdx_append]
  | not inner ih =>
      simp [Condition.tokens, leaves, List.filterMap_cons, Token.leaf?,
        filterMap_group, ih]
  | _ => rfl

theorem subSelects_subset_of_mem_leaves (condition : Condition) :
    ∀ leaf ∈ condition.leaves, leaf.subSelects ⊆ condition.subSelects := by
  induction condition using Condition.inductionOn with
  | nested inner ih => exact ih
  | and left right ihleft ihright | or left right ihleft ihright =>
      intro leaf hmem
      rcases List.mem_append.mp hmem with hleft | hright
      · intro sub hsub
        exact List.filterMap_subset _ (List.subset_append_left _ _)
          (ihleft leaf hleft hsub)
      · intro sub hsub
        exact List.filterMap_subset _ (List.subset_append_right _ _)
          (ihright leaf hright hsub)
  | not inner ih => exact ih
  | _ =>
      intro leaf hmem
      obtain rfl := List.mem_singleton.mp hmem
      exact List.Subset.refl _

end Condition

/-- The text that is rendered for a condition is a sequence of tokens over the
texts of its leaves, which can be read in exactly one way, and what is read
has the value of the condition whatever the leaves are worth. -/
theorem rendered_condition_keeps_meaning (style : Style) (condition : Condition)
    (hbuilt : ∀ sub ∈ condition.subSelects, sub.Obtainable) :
    style.renderCondition condition = .ok (style.spell (condition.tokens 0)) ∧
      (condition.tokens 0).filterMap Token.leaf? = condition.leaves.zipIdx ∧
      (∀ leaf ∈ condition.leaves,
        style.renderCondition leaf = .ok (style.condition leaf)) ∧
      ∃ f, Reads .disjunction (condition.tokens 0) f ∧
        (∀ g, Reads .disjunction (condition.tokens 0) g → g = f) ∧
        ∀ assignment, f.value assignment = condition.value assignment 0 := by
  refine ⟨?_, condition.leaf_tokens 0, ?_, ?_⟩
  · rw [style.spell_tokens]
    exact style.renderCondition_eq condition hbuilt
  · intro leaf hleaf
    apply style.renderCondition_eq
    intro sub hsub
    exact hbuilt sub
      (condition.subSelects_subset_of_mem_leaves leaf hleaf hsub)
  · obtain ⟨f, hreads, hvalue⟩ := condition.exists_reads 0
    refine ⟨f, hreads.to_disjunction, ?_, hvalue⟩
    intro g hg
    exact hg.unique hreads.to_disjunction

def Condition.regrouped : Condition :=
  .and (.raw "a") (.and
    (.not (.or (.raw "b") (.inList (.column Draft.userId)
      [.subSelect Draft.buyerIds.select] true)))
    (.or (.raw "c") (.and (.raw "d") (.raw "e"))))

theorem regrouped_keeps_meaning :
    (∀ sub ∈ Condition.regrouped.subSelects, sub.Obtainable) ∧
      (⟨Dialect.ansi, .never⟩ : Style).renderCondition Condition.regrouped =
        .ok ("a AND NOT (b OR users.id NOT IN " ++
          "(SELECT o.buyer FROM orders AS o)) AND (c OR (d AND e))") ∧
      ∃ f, Reads .disjunction (Condition.regrouped.tokens 0) f ∧
        ∀ assignment,
          f.value assignment = Condition.regrouped.value assignment 0 := by
  have hbuilt : ∀ sub ∈ Condition.regrouped.subSelects, sub.Obtainable := by
    intro sub hsub
    have hsub : Draft.buyerIds.select = sub := by
      simpa [Condition.regrouped, Condition.subSelects, Condition.scope,
        Expr.scope, Expr.subSelect?] using hsub
    rw [← hsub]
    exact Draft.buyerIds_obtainable
  obtain ⟨hrender, _, _, f, hreads, _, hvalue⟩ :=
    rendered_condition_keeps_meaning ⟨Dialect.ansi, .never⟩
      Condition.regrouped hbuilt
  refine ⟨hbuilt, hrender.trans (congrArg Except.ok ?_), f, hreads, hvalue⟩
  cbv

end SqlStatement
