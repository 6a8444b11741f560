import SqlStatement.Proofs.Grammar
import Mathlib.Tactic

/-!
# Chains of one conjunction

AND and OR join two conditions at a time, so that more of them make a tree.
How the tree groups them cannot be seen in its text: the parts stand one after
the other with the conjunction between them, and of the parts only those of the
other conjunction stand in parentheses.
-/

namespace SqlStatement

namespace Conjunction

def combine : Conjunction → Condition → Condition → Condition
  | and => .and
  | or => .or

/-- What stands between two parts of a chain. -/
def separator : Conjunction → String
  | and => " AND "
  | or => " OR "

/-- What a chain makes of a part and its text. -/
def partText (kind : Conjunction) (part : Condition) (text : String) :
    String :=
  if part.isEnclosedBy kind then "(" ++ text ++ ")" else text

theorem isEnclosedBy_combine (kind : Conjunction) (left right : Condition) :
    (kind.combine left right).isEnclosedBy kind = false := by
  cases kind <;> rfl

theorem subSelects_combine (kind : Conjunction) (left right : Condition) :
    (kind.combine left right).subSelects =
      left.subSelects ++ right.subSelects := by
  cases kind with
  | and => exact Condition.subSelects_and left right
  | or => exact Condition.subSelects_or left right

end Conjunction

/-- Conditions that are joined two at a time, in this grouping. -/
inductive Chain where
  | part (condition : Condition)
  | pair (left right : Chain)

namespace Chain

/-- From left to right. -/
def parts : Chain → List Condition
  | part condition => [condition]
  | pair left right => left.parts ++ right.parts

def condition (kind : Conjunction) : Chain → Condition
  | part condition => condition
  | pair left right => kind.combine (left.condition kind) (right.condition kind)

theorem parts_ne_nil (chain : Chain) : chain.parts ≠ [] := by
  induction chain with
  | part condition => simp [parts]
  | pair left right ihleft _ => simp [parts, ihleft]

theorem subSelects_condition (kind : Conjunction) (chain : Chain) :
    (chain.condition kind).subSelects =
      chain.parts.flatMap Condition.subSelects := by
  induction chain with
  | part condition => simp [parts, Chain.condition]
  | pair left right ihleft ihright =>
      rw [Chain.condition, kind.subSelects_combine, ihleft, ihright, parts,
        List.flatMap_append]

end Chain

/-! ## The text of a chain -/

namespace Style

variable (style : Style) (kind : Conjunction)

/-- A condition as it stands in a chain. -/
def chainPart (condition : Condition) : String :=
  kind.partText condition (style.condition condition)

theorem chainPart_combine (left right : Condition) :
    style.chainPart kind (kind.combine left right) =
      style.condition (kind.combine left right) := by
  rw [chainPart, Conjunction.partText, kind.isEnclosedBy_combine]
  rfl

theorem condition_combine (left right : Condition) :
    style.condition (kind.combine left right) =
      style.chainPart kind left ++ kind.separator ++
        style.chainPart kind right := by
  cases kind with
  | and => exact style.condition_eq (.and left right)
  | or => exact style.condition_eq (.or left right)

/-- A chain inside a chain gets no parentheses, and so it adds its own parts to
those of the outer one. -/
theorem chainPart_chain (chain : Chain) :
    style.chainPart kind (chain.condition kind) =
      kind.separator.intercalate (chain.parts.map (style.chainPart kind)) := by
  induction chain with
  | part condition => exact String.intercalate_singleton.symm
  | pair left right ihleft ihright =>
      have hleft : left.parts.map (style.chainPart kind) ≠ [] := by
        simpa using left.parts_ne_nil
      have hright : right.parts.map (style.chainPart kind) ≠ [] := by
        simpa using right.parts_ne_nil
      rw [Chain.condition, chainPart_combine, condition_combine, ihleft,
        ihright, Chain.parts, List.map_append,
        String.intercalate_append_of_ne_nil hleft hright]

theorem condition_chain {chain : Chain} (htwo : 2 ≤ chain.parts.length) :
    style.condition (chain.condition kind) =
      kind.separator.intercalate (chain.parts.map (style.chainPart kind)) := by
  -- A single part would lose the parentheses that it has in a chain.
  cases chain with
  | part condition => simp [Chain.parts] at htwo
  | pair left right =>
      rw [← chainPart_chain]
      exact (style.chainPart_combine kind _ _).symm

theorem renderCondition_chain {chain : Chain}
    (htwo : 2 ≤ chain.parts.length)
    (hbuilt : ∀ part ∈ chain.parts, ∀ sub ∈ part.subSelects,
      sub.Obtainable) :
    style.renderCondition (chain.condition kind) =
      .ok (kind.separator.intercalate
        (chain.parts.map (style.chainPart kind))) := by
  rw [style.renderCondition_eq, style.condition_chain kind htwo]
  intro sub hsub
  rw [chain.subSelects_condition kind, List.mem_flatMap] at hsub
  obtain ⟨part, hpart, hsub⟩ := hsub
  exact hbuilt part hpart sub hsub

end Style

/-- The text of a chain consists of the texts of its parts with the conjunction
between them, those of the other conjunction in parentheses and no others,
whatever the parts are.  So all groupings of the same parts have one text. -/
theorem chain_rendered_flat (style : Style) (kind : Conjunction) (chain : Chain)
    (htwo : 2 ≤ chain.parts.length)
    (hbuilt : ∀ part ∈ chain.parts, ∀ sub ∈ part.subSelects,
      sub.Obtainable) :
    (∀ part ∈ chain.parts,
      style.renderCondition part = .ok (style.condition part)) ∧
    style.renderCondition (chain.condition kind) =
      .ok (kind.separator.intercalate (chain.parts.map fun part =>
        kind.partText part (style.condition part))) ∧
    ∀ regrouped : Chain, regrouped.parts = chain.parts →
      style.renderCondition (regrouped.condition kind) =
        style.renderCondition (chain.condition kind) := by
  have hchain := style.renderCondition_chain kind htwo hbuilt
  refine ⟨?_, hchain, ?_⟩
  · intro part hpart
    exact style.renderCondition_eq part (hbuilt part hpart)
  · intro regrouped hparts
    rw [← hparts] at htwo hbuilt
    rw [style.renderCondition_chain kind htwo hbuilt, hchain, hparts]

namespace Chain

def excluded : Condition :=
  .inList (.column Draft.userId) [.subSelect Draft.buyerIds.select] true

/-- One part of the other conjunction and one with a chain of the same kind in
it. -/
def groupedLeft : Chain :=
  pair (pair (part (.or (.raw "a") (.raw "b"))) (part excluded))
    (part (.not (.and (.raw "c") (.raw "d"))))

def groupedRight : Chain :=
  pair (part (.or (.raw "a") (.raw "b")))
    (pair (part excluded) (part (.not (.and (.raw "c") (.raw "d")))))

end Chain

theorem groupings_rendered_flat :
    2 ≤ Chain.groupedLeft.parts.length ∧
      (∀ part ∈ Chain.groupedLeft.parts, ∀ sub ∈ part.subSelects,
        sub.Obtainable) ∧
      ∀ chain ∈ [Chain.groupedLeft, Chain.groupedRight],
        (⟨Dialect.ansi, .never⟩ : Style).renderCondition
            (chain.condition .and) =
          .ok ("(a OR b) AND users.id NOT IN (SELECT o.buyer FROM orders " ++
            "AS o) AND NOT (c AND d)") := by
  have hbuilt : ∀ part ∈ Chain.groupedLeft.parts, ∀ sub ∈ part.subSelects,
      sub.Obtainable := by
    simp [Chain.groupedLeft, Chain.parts, Chain.excluded, Condition.subSelects,
      Condition.scope, Expr.scope, Expr.subSelect?, Draft.buyerIds_obtainable]
  obtain ⟨_, hflat, hregrouped⟩ := chain_rendered_flat ⟨Dialect.ansi, .never⟩
    .and Chain.groupedLeft (by decide) hbuilt
  have hleft : (⟨Dialect.ansi, .never⟩ : Style).renderCondition
        (Chain.groupedLeft.condition .and) =
      .ok ("(a OR b) AND users.id NOT IN (SELECT o.buyer FROM orders " ++
        "AS o) AND NOT (c AND d)") := by
    refine hflat.trans (congrArg Except.ok ?_)
    cbv
  have hright := (hregrouped Chain.groupedRight rfl).trans hleft
  refine ⟨by decide, hbuilt, ?_⟩
  simp [hleft, hright]

end SqlStatement
