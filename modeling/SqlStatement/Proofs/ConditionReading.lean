import SqlStatement.Proofs.ExprReading
import Mathlib

/-!
# Reading conditions

A condition is read operand by operand.  What begins with NOT or a parenthesis
is no leaf, since a leaf that begins with a parenthesis has a statement in it,
and no condition begins like a statement.  So what is between two connectives is
told from the outside, and with it the whole chain.
-/

namespace SqlStatement

open Lexeme

/-! ## What is read exactly -/

namespace Condition.Exact

variable {condition : Condition} (h : condition.Exact)

include h

theorem subject {subject : Expr}
    (hsubject : condition.subject? = some subject) : subject.Exact := by
  cases condition with
  | comparison left _ _ | like left _ | inList left _ _ | isNull left _ =>
      obtain rfl := Option.some.inj hsubject
      exact h.of_mem_children List.mem_cons_self
  | nested _ | raw _ | and _ _ | or _ _ | not _ => cases hsubject

theorem of_mem_operands {kind : Conjunction} {part : Condition}
    (hpart : part ∈ condition.operands kind) : part.Exact := by
  induction condition using Condition.inductionOn with
  | and left right ihleft ihright | or left right ihleft ihright =>
      unfold operands at hpart
      split at hpart
      · rcases List.mem_append.mp hpart with hleft | hright
        · exact ihleft (h.of_mem_children List.mem_cons_self) hleft
        · exact ihright (h.of_mem_children (right_mem_children rfl)) hright
      · obtain rfl := List.mem_singleton.mp hpart
        exact h
  | _ =>
      obtain rfl := List.mem_singleton.mp hpart
      exact h

end Condition.Exact

def Operand.Exact : Operand → Prop
  | group inner => inner.Exact
  | negation inner => inner.Exact
  | leaf condition =>
      condition.Exact ∧ ∃ subject, condition.subject? = some subject

namespace Condition.Exact

variable {condition : Condition} (h : condition.Exact)

include h

theorem operand : condition.operand.Exact := by
  cases condition with
  | nested _ | not _ => exact h.of_mem_children List.mem_cons_self
  | raw text => cases h.self
  | and _ _ | or _ _ => exact h
  | comparison subject _ _ | like subject _ | inList subject _ _
  | isNull subject _ => exact ⟨h, subject, rfl⟩

theorem negand : condition.negand.Exact := by
  cases condition with
  | nested _ | not _ => exact h.of_mem_children List.mem_cons_self
  | _ => exact h

theorem ne_raw (text : String) : condition ≠ .raw text := by
  rintro rfl
  cases h.self

end Condition.Exact

/-! ## Chains and their links -/

variable {known : Dialect.Known}

/-- A connective and the operand after it. -/
abbrev Link :=
  Conjunction × Condition

namespace Link

variable (known) in
def lexemes (link : Link) : List Lexeme :=
  link.1.lexemes ++ link.2.operand.lexemes known

variable (known) in
def normal (link : Link) : Link :=
  (link.1, link.2.normal known)

def Exact (link : Link) : Prop :=
  link.2.Exact

end Link

namespace Condition

variable (known) in
/-- The condition is the chain of a first operand and the links after it. -/
structure Chain (condition first : Condition) (links : List Link) : Prop where
  operands : condition.operands condition.connective =
    first :: links.map Prod.snd
  lexemes : condition.lexemes known =
    first.operand.lexemes known ++
      links.flatMap fun link => [] ++ link.lexemes known
  normal : condition.normal known =
    assemble (first.normal known) (links.map (Link.normal known))

theorem exists_chain (known : Dialect.Known) (condition : Condition) :
    ∃ first links, condition.Chain known first links := by
  obtain ⟨first, rest, hoperands⟩ := List.exists_cons_of_ne_nil
    (condition.operands_ne_nil condition.connective)
  refine ⟨first, rest.map (Prod.mk condition.connective), ?_, ?_, ?_⟩
  · rw [hoperands, List.map_map]
    exact congrArg (List.cons first) (List.map_id rest).symm
  · rw [lexemes_chain, operandLexemes, hoperands, List.map_cons, separated,
      List.flatMap_map, List.flatMap_map]
    rfl
  · rw [condition.assembles known _ _ _ hoperands, List.map_map]
    rfl

namespace Chain

variable {condition first : Condition} {links : List Link}
  (h : condition.Chain known first links)

include h

theorem first_mem :
    first ∈ condition.operands condition.connective := by
  rw [h.operands]
  exact List.mem_cons_self

theorem link_mem {link : Link} (hlink : link ∈ links) :
    link.2 ∈ condition.operands condition.connective := by
  rw [h.operands]
  exact List.mem_cons_of_mem _ (List.mem_map_of_mem hlink)

end Chain

end Condition

/-! ## Operands are told apart -/

theorem Operand.Exact.not_select {operand : Operand} (h : operand.Exact)
    (rest after : List Lexeme) :
    operand.lexemes known ++ rest ≠ .word "SELECT" :: .mark ' ' :: after := by
  intro heq
  cases operand with
  | group inner => simp [Operand.lexemes] at heq
  | negation inner =>
      simp [Operand.lexemes, Condition.lexemes_not known h.ne_raw] at heq
  | leaf condition =>
      obtain ⟨hexact, subject, hsubject⟩ := h
      rw [Operand.lexemes, Condition.lexemes_of_subject known hsubject,
        List.append_assoc] at heq
      exact (hexact.subject hsubject).not_keyword heq (by decide)

theorem Condition.Exact.not_select {condition : Condition}
    (h : condition.Exact) (rest after : List Lexeme) :
    condition.lexemes known ++ rest ≠ .word "SELECT" :: .mark ' ' :: after := by
  obtain ⟨first, links, hchain⟩ := exists_chain known condition
  have hfirst : first.Exact := h.of_mem_operands hchain.first_mem
  rw [hchain.lexemes, List.append_assoc]
  exact hfirst.operand.not_select _ after

namespace Operand

/-- What may follow an operand. -/
def afterWords : List String :=
  "AND" :: "OR" :: joinWords

variable (known) in
def Clear (operand : Operand) : Prop :=
  Unmistakable (Operand.lexemes known) (Operand.normal known) Operand.Exact
    (stopsAt [')'] afterWords) operand

/-- A leaf that begins with a parenthesis has a statement there. -/
theorem leaf_ne_group {condition inner : Condition}
    (hleaf : (leaf condition).Exact) (hinner : inner.Exact)
    (rest rest' : List Lexeme) :
    (leaf condition).lexemes known ++ rest ≠
      (group inner).lexemes known ++ rest' := by
  intro heq
  obtain ⟨hexact, subject, hsubject⟩ := hleaf
  rw [Operand.lexemes, Operand.lexemes,
    Condition.lexemes_of_subject known hsubject, List.append_assoc,
    List.cons_append] at heq
  obtain ⟨select, rfl⟩ := (hexact.subject hsubject).exists_subSelect heq
  rw [Expr.lexemes_subSelect, select.lexemes_eq] at heq
  simp only [List.cons_append, List.cons.injEq, true_and,
    List.append_assoc] at heq
  exact hinner.not_select _ _ heq.symm

theorem leaf_ne_negation {condition inner : Condition}
    (hleaf : (leaf condition).Exact) (hinner : inner.Exact)
    (rest rest' : List Lexeme) :
    (leaf condition).lexemes known ++ rest ≠
      (negation inner).lexemes known ++ rest' := by
  intro heq
  obtain ⟨hexact, subject, hsubject⟩ := hleaf
  rw [Operand.lexemes, Operand.lexemes,
    Condition.lexemes_of_subject known hsubject,
    Condition.lexemes_not known hinner.ne_raw, List.append_assoc] at heq
  exact (hexact.subject hsubject).not_keyword heq (by decide)

theorem group_ne_negation {left right : Condition} (hright : right.Exact)
    (rest rest' : List Lexeme) :
    (group left).lexemes known ++ rest ≠
      (negation right).lexemes known ++ rest' := by
  simp [Operand.lexemes, Condition.lexemes_not known hright.ne_raw]

end Operand

/-! ## Leaves -/

namespace Condition

variable (known) in
def Clear (condition : Condition) : Prop :=
  Unmistakable (lexemes known) (normal known) Exact (stopsAt [')'] joinWords)
    condition

theorem subSelect_ne_list {args : List Expr} (hexact : ∀ arg ∈ args, arg.Exact)
    (hne : ∀ select, args ≠ [.subSelect select]) (select : Select)
    (rest rest' : List Lexeme) :
    listLexemes known [.subSelect select] ++ rest ≠
      listLexemes known args ++ Lexeme.mark ')' :: rest' := by
  intro heq
  rw [listLexemes_of_ne known hne, listLexemes, select.lexemes_eq] at heq
  exact Expr.not_keyword_of_list hexact heq.symm (by decide)

/-- The parenthesis of a sub-select alone in an IN is that of the IN. -/
theorem list_unmistakable {args : List Expr}
    (hexact : ∀ arg ∈ args, arg.Exact)
    (hclear : ∀ arg ∈ args, arg.Clear known) :
    Unmistakable
      (fun args => .mark '(' :: (listLexemes known args ++ [Lexeme.mark ')']))
      (List.map (Expr.normal known)) (fun args => ∀ arg ∈ args, arg.Exact)
      noCall args := by
  intro others hothers rest rest' hrest hrest' heq
  simp only [List.cons_append, List.append_assoc, List.nil_append,
    List.cons.injEq, true_and] at heq
  -- A lone sub-select is an argument with parentheses, but begins like no list.
  by_cases hlone : ∃ select, args = [.subSelect select]
  · obtain ⟨select, rfl⟩ := hlone
    by_cases hotherLone : ∃ select, others = [.subSelect select]
    · obtain ⟨other, rfl⟩ := hotherLone
      rw [List.forall_mem_singleton] at hclear hothers
      have hparenthesised : (Expr.subSelect select).lexemes known ++ rest =
          (Expr.subSelect other).lexemes known ++ rest' := by
        rw [Expr.lexemes_subSelect, Expr.lexemes_subSelect]
        simpa [listLexemes] using heq
      obtain ⟨hnormal, hend⟩ :=
        hclear _ hothers rest rest' hrest hrest' hparenthesised
      exact ⟨congrArg (fun arg => [arg]) hnormal, hend⟩
    · have hne : ∀ select, others ≠ [.subSelect select] := by
        simpa using hotherLone
      exact absurd heq (subSelect_ne_list hothers hne select _ _)
  · have hne : ∀ select, args ≠ [.subSelect select] := by
      simpa using hlone
    by_cases hotherLone : ∃ select, others = [.subSelect select]
    · obtain ⟨other, rfl⟩ := hotherLone
      exact absurd heq.symm (subSelect_ne_list hexact hne other _ _)
    · have hotherNe : ∀ select, others ≠ [.subSelect select] := by
        simpa using hotherLone
      rw [listLexemes_of_ne known hne, listLexemes_of_ne known hotherNe] at heq
      obtain ⟨hnormals, hend⟩ := Expr.list_unmistakable hexact hclear others
        hothers _ _ rfl rfl heq
      exact ⟨hnormals, List.tail_eq_of_cons_eq hend⟩

inductive PredicateKind where
  | comparison
  | like
  | inList
  | isNull

def predicateKind? : Condition → Option PredicateKind
  | comparison _ _ _ => some .comparison
  | like _ _ => some .like
  | inList _ _ _ => some .inList
  | isNull _ _ => some .isNull
  | nested _ | raw _ | and _ _ | or _ _ | not _ => none

/-- The kind of predicate that the next lexemes belong to. -/
def PredicateKind.ahead : List Lexeme → PredicateKind
  | .word text :: _ =>
      if text = "LIKE" then like else if text = "IS" then isNull else inList
  | _ => comparison

theorem predicateKind?_eq {condition : Condition} {subject : Expr}
    (hsubject : condition.subject? = some subject) (rest : List Lexeme) :
    condition.predicateKind? =
      some (PredicateKind.ahead (condition.predicate known ++ rest)) := by
  cases condition with
  | comparison _ comparator _ => cases comparator <;> rfl
  | like _ _ => rfl
  | inList _ _ negated => cases negated <;> rfl
  | isNull _ _ => rfl
  | nested _ | raw _ | and _ _ | or _ _ | not _ => cases hsubject

variable (known) in
/-- What the leaf says of its subject is unmistakable. -/
def PredicateClear (condition : Condition) : Prop :=
  ∀ other : Condition, other.Exact →
    condition.predicateKind? = other.predicateKind? →
    condition.subject?.map (Expr.normal known) =
      other.subject?.map (Expr.normal known) →
    ∀ rest rest', noCall rest = true → noCall rest' = true →
      condition.predicate known ++ rest = other.predicate known ++ rest' →
      condition.normal known = other.normal known ∧ rest = rest'

theorem comparison_predicateClear {left right : Expr} {comparator : Comparator}
    (hright : right.Clear known) :
    (comparison left comparator right).PredicateClear known := by
  intro other hother hkind hsubject rest rest' hrest hrest' heq
  cases other with
  | comparison otherLeft otherComparator otherRight =>
      have hotherRight : otherRight.Exact :=
        hother.of_mem_children (right_mem_children rfl)
      have hcomparator : (comparator.lexemes ++ [Lexeme.mark ' ']) ++
            (right.lexemes known ++ rest) =
          (otherComparator.lexemes ++ [Lexeme.mark ' ']) ++
            (otherRight.lexemes known ++ rest') := by
        simpa [predicate] using heq
      obtain ⟨hcomparators, hrights⟩ := comparator.unmistakable otherComparator
        trivial _ _ rfl rfl hcomparator
      obtain ⟨hnormal, hend⟩ :=
        hright otherRight hotherRight rest rest' hrest hrest' hrights
      rw [id, id] at hcomparators
      refine ⟨?_, hend⟩
      rw [normal, normal, Option.some.inj hsubject, hcomparators, hnormal]
  | _ => cases hkind

theorem like_predicateClear {left right : Expr} (hright : right.Clear known) :
    (like left right).PredicateClear known := by
  intro other hother hkind hsubject rest rest' hrest hrest' heq
  cases other with
  | like otherLeft otherRight =>
      have hotherRight : otherRight.Exact :=
        hother.of_mem_children (right_mem_children rfl)
      simp only [predicate, List.cons_append, List.cons.injEq, true_and] at heq
      obtain ⟨hnormal, hend⟩ :=
        hright otherRight hotherRight rest rest' hrest hrest' heq
      refine ⟨?_, hend⟩
      rw [normal, normal, Option.some.inj hsubject, hnormal]
  | _ => cases hkind

theorem inList_predicateClear {left : Expr} {args : List Expr} {negated : Bool}
    (hexact : ∀ arg ∈ args, arg.Exact)
    (hclear : ∀ arg ∈ args, arg.Clear known) :
    (inList left args negated).PredicateClear known := by
  intro other hother hkind hsubject rest rest' hrest hrest' heq
  cases other with
  | inList otherLeft otherArgs otherNegated =>
      have hotherArgs : ∀ arg ∈ otherArgs, arg.Exact := fun _ harg =>
        hother.of_mem_children
          (List.mem_cons_of_mem _ (List.mem_map_of_mem harg))
      have hlists : negated = otherNegated ∧
          .mark '(' :: (listLexemes known args ++ [Lexeme.mark ')']) ++ rest =
            .mark '(' :: (listLexemes known otherArgs ++ [Lexeme.mark ')']) ++
              rest' := by
        cases negated <;> cases otherNegated <;>
          simp [predicate] at heq ⊢ <;> exact heq
      obtain ⟨rfl, hlists⟩ := hlists
      obtain ⟨hnormals, hend⟩ := list_unmistakable hexact hclear otherArgs
        hotherArgs rest rest' hrest hrest' hlists
      refine ⟨?_, hend⟩
      rw [normal, normal, Option.some.inj hsubject, Expr.listNormal_eq_map,
        Expr.listNormal_eq_map, hnormals]
  | _ => cases hkind

theorem isNull_predicateClear {operand : Expr} {negated : Bool} :
    (isNull operand negated).PredicateClear known := by
  intro other _ hkind hsubject rest rest' _ _ heq
  cases other with
  | isNull otherOperand otherNegated =>
      have hnegated : negated = otherNegated ∧ rest = rest' := by
        cases negated <;> cases otherNegated <;>
          simp [predicate] at heq ⊢ <;> exact heq
      obtain ⟨rfl, hend⟩ := hnegated
      refine ⟨?_, hend⟩
      rw [normal, normal, Option.some.inj hsubject]
  | _ => cases hkind

end Condition

namespace Operand

theorem leaf_clear {condition : Condition} {subject : Expr}
    (hexact : condition.Exact) (hsubject : condition.subject? = some subject)
    (hclear : subject.Clear known)
    (hpredicate : condition.PredicateClear known) :
    (leaf condition).Clear known := by
  intro other hother rest rest' hrest hrest' heq
  have hleaf : (leaf condition).Exact := ⟨hexact, subject, hsubject⟩
  cases other with
  | group inner => exact absurd heq (leaf_ne_group hleaf hother _ _)
  | negation inner => exact absurd heq (leaf_ne_negation hleaf hother _ _)
  | leaf other =>
      obtain ⟨hother, otherSubject, hotherSubject⟩ := hother
      simp only [lexemes, Condition.lexemes_of_subject known hsubject,
        Condition.lexemes_of_subject known hotherSubject, List.append_assoc,
        List.cons_append] at heq
      obtain ⟨hnormal, hrests⟩ := hclear otherSubject
        (hother.subject hotherSubject) _ _ rfl rfl heq
      have hpredicates := List.tail_eq_of_cons_eq hrests
      have hkind : condition.predicateKind? = other.predicateKind? := by
        rw [Condition.predicateKind?_eq hsubject rest, hpredicates,
          ← Condition.predicateKind?_eq hotherSubject]
      have hsubjects : condition.subject?.map (Expr.normal known) =
          other.subject?.map (Expr.normal known) := by
        rw [hsubject, hotherSubject, Option.map_some, Option.map_some, hnormal]
      exact hpredicate other hother hkind hsubjects rest rest'
        (noCall_of_stopsAt (by decide) hrest)
        (noCall_of_stopsAt (by decide) hrest') hpredicates

theorem group_clear {inner : Condition} (hexact : inner.Exact)
    (hclear : inner.Clear known) : (group inner).Clear known := by
  intro other hother rest rest' hrest hrest' heq
  cases other with
  | group other =>
      simp only [lexemes, List.cons_append, List.append_assoc, List.nil_append,
        List.cons.injEq, true_and] at heq
      obtain ⟨hnormal, hend⟩ := hclear other hother _ _ rfl rfl heq
      exact ⟨hnormal, List.tail_eq_of_cons_eq hend⟩
  | negation other => exact absurd heq (group_ne_negation hother _ _)
  | leaf other => exact absurd heq.symm (leaf_ne_group hother hexact _ _)

theorem negation_clear {inner : Condition} (hexact : inner.Exact)
    (hclear : inner.negand.Clear known) : (negation inner).Clear known := by
  intro other hother rest rest' hrest hrest' heq
  cases other with
  | group other => exact absurd heq.symm (group_ne_negation hexact _ _)
  | negation other =>
      rw [Operand.lexemes, Operand.lexemes,
        Condition.lexemes_not known hexact.ne_raw,
        Condition.lexemes_not known hother.ne_raw] at heq
      simp only [List.cons_append, List.cons.injEq, true_and] at heq
      obtain ⟨hnormal, hend⟩ :=
        hclear other.negand hother.negand rest rest' hrest hrest' heq
      rw [Condition.normal_negand, Condition.normal_negand] at hnormal
      exact ⟨congrArg Condition.not hnormal, hend⟩
  | leaf other => exact absurd heq.symm (leaf_ne_negation hother hexact _ _)

end Operand

/-! ## Chains -/

namespace Link

theorem unmistakable {link : Link} (hclear : link.2.operand.Clear known) :
    Unmistakable (lexemes known) (normal known) Exact
      (stopsAt [')'] Operand.afterWords) link := by
  intro other hother rest rest' hrest hrest' heq
  obtain ⟨kind, operand⟩ := link
  obtain ⟨otherKind, otherOperand⟩ := other
  have hoperands : kind = otherKind ∧
      operand.operand.lexemes known ++ rest =
        otherOperand.operand.lexemes known ++ rest' := by
    cases kind <;> cases otherKind <;>
      simp [lexemes, Conjunction.lexemes] at heq ⊢ <;> exact heq
  obtain ⟨rfl, hoperands⟩ := hoperands
  obtain ⟨hnormal, hend⟩ := hclear otherOperand.operand
    (Condition.Exact.operand hother) rest rest' hrest hrest' hoperands
  rw [Condition.normal_operand, Condition.normal_operand] at hnormal
  exact ⟨congrArg (Prod.mk kind) hnormal, hend⟩

theorem delimits :
    Unmistakable.Delimits (lexemes known) Exact
      (stopsAt [')'] Operand.afterWords) (stopsAt [')'] joinWords) [] where
  stops_separator link _ _ := by
    obtain ⟨kind, operand⟩ := link
    cases kind <;> rfl
  stops_of_ends _ hrest :=
    stopsAt_mono (List.Subset.refl _)
      (List.subset_cons_of_subset _ (List.subset_cons_self _ _)) hrest
  not_ends_separator link _ _ := by
    obtain ⟨kind, operand⟩ := link
    cases kind <;> rfl

end Link

namespace Condition

theorem clear_of_operands {condition : Condition} (hexact : condition.Exact)
    (hclear : ∀ part ∈ condition.operands condition.connective,
      part.operand.Clear known) :
    condition.Clear known := by
  intro other hother rest rest' hrest hrest' heq
  obtain ⟨first, links, hchain⟩ := exists_chain known condition
  obtain ⟨otherFirst, otherLinks, hotherChain⟩ := exists_chain known other
  have hlinks : ∀ link ∈ links, link.Exact := fun _ hlink =>
    hexact.of_mem_operands (hchain.link_mem hlink)
  have hotherFirst : otherFirst.Exact :=
    hother.of_mem_operands hotherChain.first_mem
  have hotherLinks : ∀ link ∈ otherLinks, link.Exact := fun _ hlink =>
    hother.of_mem_operands (hotherChain.link_mem hlink)
  have hlinksClear : ∀ link ∈ links, Unmistakable (Link.lexemes known)
      (Link.normal known) Link.Exact (stopsAt [')'] Operand.afterWords) link :=
    fun link hlink => link.unmistakable (hclear _ (hchain.link_mem hlink))
  -- The connectives of the two chains need not be known to be the same: each
  -- link tells its own.
  rw [hchain.lexemes, hotherChain.lexemes, List.append_assoc,
    List.append_assoc] at heq
  obtain ⟨hfirst, hrests⟩ := hclear first hchain.first_mem otherFirst.operand
    hotherFirst.operand _ _ (Link.delimits.stops_flatMap hlinks hrest)
    (Link.delimits.stops_flatMap hotherLinks hrest') heq
  obtain ⟨hnormals, hend⟩ := Unmistakable.flatMap Link.delimits hlinks
    hlinksClear otherLinks hotherLinks rest rest' hrest hrest' hrests
  rw [normal_operand, normal_operand] at hfirst
  refine ⟨?_, hend⟩
  rw [hchain.normal, hotherChain.normal, hfirst, hnormals]

/-- The condition is unmistakable wherever it may stand. -/
structure Readable (known : Dialect.Known) (condition : Condition) : Prop where
  whole : condition.Clear known
  operands : ∀ kind, ∀ part ∈ condition.operands kind,
    part.operand.Clear known
  negand : condition.negand.Clear known

theorem readable_of_single {condition : Condition} (hexact : condition.Exact)
    (hsingle : ∀ kind, condition.operands kind = [condition])
    (hoperand : condition.operand.Clear known)
    (hnegand : condition.Clear known → condition.negand.Clear known) :
    condition.Readable known := by
  have hoperands : ∀ kind, ∀ part ∈ condition.operands kind,
      part.operand.Clear known := by
    intro kind part hpart
    rw [hsingle kind] at hpart
    obtain rfl := List.mem_singleton.mp hpart
    exact hoperand
  have hwhole : condition.Clear known :=
    clear_of_operands hexact (hoperands condition.connective)
  exact ⟨hwhole, hoperands, hnegand hwhole⟩

theorem readable_of_chain {condition left right : Condition}
    (hexact : condition.Exact) (hleft : left.Readable known)
    (hright : right.Readable known)
    (hoperands : ∀ kind, condition.operands kind =
      if kind = condition.connective then
        left.operands kind ++ right.operands kind
      else [condition])
    (hoperand : condition.operand = .group condition)
    (hnegand : condition.negand = .group condition) :
    condition.Readable known := by
  have hparts : ∀ part ∈ condition.operands condition.connective,
      part.operand.Clear known := by
    intro part hpart
    rw [hoperands, if_pos rfl, List.mem_append] at hpart
    rcases hpart with hpart | hpart
    · exact hleft.operands _ part hpart
    · exact hright.operands _ part hpart
  have hwhole : condition.Clear known := clear_of_operands hexact hparts
  have hgroup : (Operand.group condition).Clear known :=
    Operand.group_clear hexact hwhole
  refine ⟨hwhole, ?_, hnegand ▸ hgroup⟩
  intro kind part hpart
  by_cases hkind : kind = condition.connective
  · rw [hkind] at hpart
    exact hparts part hpart
  · rw [hoperands, if_neg hkind, List.mem_singleton] at hpart
    rw [hpart, hoperand]
    exact hgroup

theorem readable_of_children {condition : Condition} (hexact : condition.Exact)
    (hexprs : ∀ expr, .expr expr ∈ (Node.condition condition).children →
      expr.Clear known)
    (hconditions : ∀ inner,
      .condition inner ∈ (Node.condition condition).children →
      inner.Readable known) :
    condition.Readable known := by
  have hgroup : condition.Clear known →
      (Operand.group condition).Clear known :=
    Operand.group_clear hexact
  cases condition with
  | comparison left comparator right =>
      have hleft := hexprs left List.mem_cons_self
      have hright := hexprs right (right_mem_children rfl)
      have hleaf := Operand.leaf_clear hexact rfl hleft
        (comparison_predicateClear hright)
      exact readable_of_single hexact (fun _ => rfl) hleaf hgroup
  | like left right =>
      have hleft := hexprs left List.mem_cons_self
      have hright := hexprs right (right_mem_children rfl)
      have hleaf := Operand.leaf_clear hexact rfl hleft
        (like_predicateClear hright)
      exact readable_of_single hexact (fun _ => rfl) hleaf hgroup
  | inList left args negated =>
      have hleft := hexprs left List.mem_cons_self
      have hmem : ∀ arg ∈ args, .expr arg ∈
          (Node.condition (inList left args negated)).children :=
        fun arg harg => List.mem_cons_of_mem _ (List.mem_map_of_mem harg)
      have hleaf := Operand.leaf_clear hexact rfl hleft
        (inList_predicateClear
          (fun arg harg => hexact.of_mem_children (hmem arg harg))
          fun arg harg => hexprs arg (hmem arg harg))
      exact readable_of_single hexact (fun _ => rfl) hleaf hgroup
  | isNull operand negated =>
      have hoperand := hexprs operand List.mem_cons_self
      have hleaf := Operand.leaf_clear hexact rfl hoperand
        isNull_predicateClear
      exact readable_of_single hexact (fun _ => rfl) hleaf hgroup
  | nested inner =>
      have hinner := hconditions inner List.mem_cons_self
      have hinnerExact : inner.Exact :=
        hexact.of_mem_children List.mem_cons_self
      have hinnerGroup := Operand.group_clear hinnerExact hinner.whole
      exact readable_of_single hexact (fun _ => rfl) hinnerGroup
        fun _ => hinnerGroup
  | raw text => cases hexact.self
  | and left right =>
      have hleft := hconditions left List.mem_cons_self
      have hright := hconditions right (right_mem_children rfl)
      exact readable_of_chain hexact hleft hright (fun _ => rfl) rfl rfl
  | or left right =>
      have hleft := hconditions left List.mem_cons_self
      have hright := hconditions right (right_mem_children rfl)
      exact readable_of_chain hexact hleft hright (fun _ => rfl) rfl rfl
  | not inner =>
      have hinner := hconditions inner List.mem_cons_self
      have hinnerExact : inner.Exact :=
        hexact.of_mem_children List.mem_cons_self
      have hnegation := Operand.negation_clear hinnerExact hinner.negand
      exact readable_of_single hexact (fun _ => rfl) hnegation
        fun _ => hnegation

end Condition

end SqlStatement
