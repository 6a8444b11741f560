import SqlStatement.Proofs.ConditionReading
import Mathlib

/-!
# One reading for each text

A statement is read clause by clause, since every clause begins with a word that
cannot go on the one before.  With the expressions and conditions in it, by
induction on the nodes, every statement is unmistakable, and what is rendered
with all names quoted tells the statement up to its normal form.
-/

namespace SqlStatement

open Lexeme

/-! ## What is read exactly -/

def Join.Exact (join : Join) : Prop :=
  join.on.Exact

def OrderField.Exact (field : OrderField) : Prop :=
  field.expr.Exact

namespace Select.Exact

variable {select : Select} (h : select.Exact)

include h

theorem items : ∀ item ∈ select.items, item.Exact := by
  intro item hitem
  have hitems : (Node.items select.items).Throughout Node.isExact :=
    h.of_mem_children List.mem_cons_self
  exact hitems.of_mem_children (List.mem_map_of_mem hitem)

theorem joins : ∀ join ∈ select.joins, join.Exact := by
  intro join hjoin
  have hnode : (Node.join join).Throughout Node.isExact :=
    h.of_mem_children (join_mem_children hjoin)
  exact hnode.of_mem_children (List.mem_cons_of_mem _ List.mem_cons_self)

theorem filter : ∀ condition ∈ select.filter, condition.Exact := by
  intro condition hcondition
  have hnode : (Node.filter condition).Throughout Node.isExact :=
    h.of_mem_children (filter_mem_children hcondition)
  exact hnode.of_mem_children List.mem_cons_self

theorem order : ∀ field ∈ select.order, field.Exact := by
  intro field hfield
  have horder : (Node.order select.order).Throughout Node.isExact :=
    h.of_mem_children (order_mem_children hfield)
  have hnode : (Node.orderField field).Throughout Node.isExact :=
    horder.of_mem_children (List.mem_map_of_mem hfield)
  exact hnode.of_mem_children List.mem_cons_self

end Select.Exact

variable {known : Dialect.Known}

/-! ## The FROM -/

theorem Table.delimits :
    Unmistakable.Delimits (Table.lexemes known) (fun _ => True)
      (stopsAt [')', ','] ("ON" :: joinWords)) (stopsAt [')'] joinWords)
      comma where
  stops_separator _ _ _ := rfl
  stops_of_ends _ hrest :=
    stopsAt_mono (by simp) (List.subset_cons_self _ _) hrest
  not_ends_separator _ _ _ := rfl

theorem Table.list_unmistakable (tables : List Table) :
    Unmistakable (fun tables => separated comma (tables.map (lexemes known)))
      (List.map normal) (fun tables => ∀ table ∈ tables, True)
      (stopsAt [')'] joinWords) tables := by
  have hopens : ∀ table : Table, True → ∀ rest,
      stopsAt [')'] joinWords (table.lexemes known ++ rest) = false := by
    intro table _ rest
    rw [lexemes_eq]
    rfl
  exact .separated delimits hopens (fun _ _ => trivial)
    fun table _ => table.unmistakable known

namespace Join

theorem delimits :
    Unmistakable.Delimits (lexemes known) Exact (stopsAt [')'] joinWords)
      (stopsAt [')'] whereWords) [.mark ' '] where
  stops_separator join _ _ := by
    obtain ⟨kind, table, on⟩ := join
    cases kind <;> rfl
  stops_of_ends _ hrest := stopsAt_mono (by simp) (by decide) hrest
  not_ends_separator join _ _ := by
    obtain ⟨kind, table, on⟩ := join
    cases kind <;> rfl

theorem unmistakable {join : Join} (hon : join.on.Clear known) :
    Unmistakable (lexemes known) (normal known) Exact (stopsAt [')'] joinWords)
      join := by
  intro other hother rest rest' hrest hrest' heq
  obtain ⟨kind, table, on⟩ := join
  obtain ⟨otherKind, otherTable, otherOn⟩ := other
  simp only [lexemes, List.append_assoc, List.cons_append] at heq
  obtain ⟨hkind, htables⟩ :=
    kind.unmistakable otherKind trivial _ _ rfl rfl heq
  obtain ⟨htable, hons⟩ := table.unmistakable known otherTable trivial _ _
    rfl rfl (List.tail_eq_of_cons_eq htables)
  simp only [List.cons.injEq, true_and] at hons
  obtain ⟨honNormal, hend⟩ := hon otherOn hother rest rest' hrest hrest' hons
  refine ⟨?_, hend⟩
  rw [normal, normal, htable, honNormal]
  exact congrArg (fun k => Join.mk k _ _) hkind

end Join

theorem Condition.where_unmistakable {filter : Option Condition}
    (hexact : ∀ condition ∈ filter, condition.Exact)
    (hclear : ∀ condition ∈ filter, condition.Clear known) :
    Unmistakable (fun filter => filter.elim [] (whereLexemes known))
      (Option.map (normal known))
      (fun filter => ∀ condition ∈ filter, condition.Exact)
      (stopsAt [')'] orderWords) filter := by
  refine .option (fun _ _ _ => rfl) hexact ?_
  intro condition hcondition other hother rest rest' hrest hrest' heq
  have hmono : ∀ rest, stopsAt [')'] orderWords rest = true →
      stopsAt [')'] joinWords rest = true := fun rest =>
    stopsAt_mono (by simp) (by decide)
  simp only [whereLexemes, List.cons_append, List.cons.injEq, true_and] at heq
  exact hclear condition hcondition other hother rest rest' (hmono rest hrest)
    (hmono rest' hrest') heq

/-! ## The ORDER BY -/

namespace OrderField

theorem stopsAt_nulls (nulls : Option NullOrder) {rest : List Lexeme}
    (hrest : stopsAt [')', ','] pagingWords rest = true) :
    stopsAt [')', ','] ("NULLS" :: pagingWords)
      (nulls.elim [] NullOrder.lexemes ++ rest) = true := by
  rcases nulls with _ | _ | _
  · exact stopsAt_mono (by simp) (List.subset_cons_self _ _) hrest
  · rfl
  · rfl

theorem noCall_modifiers (direction : Option Direction)
    (nulls : Option NullOrder) {rest : List Lexeme}
    (hrest : stopsAt [')', ','] pagingWords rest = true) :
    noCall (direction.elim [] Direction.lexemes ++
      (nulls.elim [] NullOrder.lexemes ++ rest)) = true := by
  rcases direction with _ | _ | _
  · exact noCall_of_stopsAt (by decide) (stopsAt_nulls nulls hrest)
  · rfl
  · rfl

theorem unmistakable {field : OrderField} (hexpr : field.expr.Clear known) :
    Unmistakable (lexemes known) (normal known) Exact
      (stopsAt [')', ','] pagingWords) field := by
  intro other hother rest rest' hrest hrest' heq
  obtain ⟨expr, direction, nulls⟩ := field
  obtain ⟨otherExpr, otherDirection, otherNulls⟩ := other
  simp only [lexemes, List.append_assoc] at heq
  have hdirection : Unmistakable
      (fun direction? => direction?.elim [] Direction.lexemes) (Option.map id)
      (fun direction? => ∀ direction ∈ direction?, True)
      (stopsAt [')', ','] ("NULLS" :: pagingWords)) direction := by
    refine .option ?_ (fun _ _ => trivial) ?_
    · intro direction _ rest
      cases direction <;> rfl
    · exact fun direction _ => direction.unmistakable.mono (by simp)
  have hnulls : Unmistakable
      (fun nulls? => nulls?.elim [] NullOrder.lexemes) (Option.map id)
      (fun nulls? => ∀ nulls ∈ nulls?, True)
      (stopsAt [')', ','] pagingWords) nulls := by
    refine .option ?_ (fun _ _ => trivial) ?_
    · intro nulls _ rest
      cases nulls <;> rfl
    · exact fun nulls _ => nulls.unmistakable.mono (by simp)
  obtain ⟨hexprs, hdirections⟩ := hexpr otherExpr hother _ _
    (noCall_modifiers _ _ hrest) (noCall_modifiers _ _ hrest') heq
  obtain ⟨hdirectionNormal, hnullses⟩ := hdirection otherDirection
    (fun _ _ => trivial) _ _ (stopsAt_nulls _ hrest) (stopsAt_nulls _ hrest')
    hdirections
  obtain ⟨hnullsNormal, hend⟩ := hnulls otherNulls (fun _ _ => trivial) rest
    rest' hrest hrest' hnullses
  rw [Option.map_id, id, id] at hdirectionNormal hnullsNormal
  refine ⟨?_, hend⟩
  rw [normal, normal, hexprs, hdirectionNormal, hnullsNormal]

theorem delimits :
    Unmistakable.Delimits (lexemes known) Exact
      (stopsAt [')', ','] pagingWords) (stopsAt [')'] pagingWords) comma where
  stops_separator _ _ _ := rfl
  stops_of_ends _ hrest :=
    stopsAt_mono (by simp) (List.Subset.refl _) hrest
  not_ends_separator _ _ _ := rfl

theorem not_stopsAt {field : OrderField} (hexact : field.Exact)
    (words : List String) (rest : List Lexeme) :
    stopsAt [')'] words (field.lexemes known ++ rest) = false := by
  rw [lexemes, List.append_assoc]
  exact Expr.Exact.not_stopsAt hexact words _

theorem list_unmistakable {fields : List OrderField}
    (hexact : ∀ field ∈ fields, field.Exact)
    (hclear : ∀ field ∈ fields, field.expr.Clear known) :
    Unmistakable (fun fields => separated comma (fields.map (lexemes known)))
      (List.map (normal known)) (fun fields => ∀ field ∈ fields, field.Exact)
      (stopsAt [')'] pagingWords) fields :=
  .separated delimits (fun _ hfield => not_stopsAt hfield pagingWords) hexact
    fun field hfield => unmistakable (hclear field hfield)

end OrderField

/-! ## The tail -/

namespace Dialect.Known

def orderOfOne : List Lexeme :=
  [.word "ORDER", .mark ' ', .word "BY", .mark ' ', .mark '(',
    .word "SELECT", .mark ' ', .word "1", .mark ')']

theorem pagingOrder_lexemes (known : Known) :
    known.dialect.pagingOrder.map (fun text => Lexeme.plain text.toList) =
        none ∨
      known.dialect.pagingOrder.map (fun text => Lexeme.plain text.toList) =
        some orderOfOne := by
  cases known with
  | sqlServer =>
      have hplain : Lexeme.plain "ORDER BY (SELECT 1)".toList = orderOfOne := by
        decide +kernel
      exact .inr (congrArg some hplain)
  | _ => exact .inl rfl

end Dialect.Known

/-- A statement that selects something has a FROM after it. -/
theorem Select.Exact.lexemes_ne_one {select : Select} (h : select.Exact)
    (rest after : List Lexeme) :
    select.lexemes known ++ rest ≠
      .word "SELECT" :: .mark ' ' :: .word "1" :: .mark ')' :: after := by
  intro heq
  have hone : (Expr.literal (.integer 1)).Exact := by
    intro node hnode
    obtain rfl : node = .expr (.literal (.integer 1)) := by
      simpa [Node.nodes_eq, Node.children, Node.childrenOfExpr] using hnode
    rfl
  have hclear : (Expr.literal (.integer 1)).Clear known :=
    Expr.literal_clear hone
  have hlist := Expr.list_unmistakable (List.forall_mem_singleton.mpr hone)
    (List.forall_mem_singleton.mpr hclear)
  rw [select.lexemes_eq] at heq
  cases hdistinct : select.distinct with
  | true => simp [hdistinct] at heq
  | false =>
      simp only [hdistinct, List.cons_append, List.append_assoc,
        List.cons.injEq, true_and] at heq
      obtain ⟨_, hend⟩ := hlist select.items h.items (.mark ')' :: after) _
        rfl rfl heq.symm
      cases hend

/-- No field is ordered by such a statement. -/
theorem OrderField.list_ne_one {fields : List OrderField} (hne : fields ≠ [])
    (hexact : ∀ field ∈ fields, field.Exact) (rest after : List Lexeme) :
    separated comma (fields.map (OrderField.lexemes known)) ++ rest ≠
      .mark '(' :: .word "SELECT" :: .mark ' ' :: .word "1" :: .mark ')' ::
        after := by
  intro heq
  obtain ⟨field, fields, rfl⟩ := List.exists_cons_of_ne_nil hne
  have hexpr : field.expr.Exact := hexact field List.mem_cons_self
  simp only [List.map_cons, separated, lexemes, List.append_assoc] at heq
  obtain ⟨select, hselect⟩ := hexpr.exists_subSelect heq
  rw [hselect] at heq hexpr
  have hselectExact : select.Exact := hexpr.of_mem_children List.mem_cons_self
  rw [Expr.lexemes_subSelect] at heq
  simp only [List.cons_append, List.append_assoc, List.cons.injEq,
    true_and] at heq
  exact hselectExact.lexemes_ne_one _ _ heq

namespace Select

theorem tailLexemes_ordered {select : Select} (h : select.order ≠ []) :
    select.tailLexemes known =
      .mark ' ' :: .word "ORDER" :: .mark ' ' :: .word "BY" :: .mark ' ' ::
        (separated comma (select.order.map (OrderField.lexemes known)) ++
          spaced (known.pagingLexemes select.limit select.offset)) := by
  obtain ⟨field, fields, hcons⟩ := List.exists_cons_of_ne_nil h
  unfold tailLexemes Dialect.Known.orderLexemes OrderField.orderByLexemes
  rw [hcons]
  rfl

theorem tailLexemes_unordered {select : Select} (h : select.order = []) :
    select.tailLexemes known =
      (known.pagingLexemes select.limit select.offset).elim [] fun paging =>
        spaced (known.dialect.pagingOrder.map fun text =>
          Lexeme.plain text.toList) ++ Lexeme.mark ' ' :: paging := by
  unfold tailLexemes Dialect.Known.orderLexemes OrderField.orderByLexemes
  rw [h]
  cases known.pagingLexemes select.limit select.offset <;> rfl

/-- The paging is told where it is given an order, too. -/
theorem spaced_of_given {given paging other : Option (List Lexeme)}
    {rest rest' : List Lexeme} (hrest : stopsAt [')'] [] rest = true)
    (hrest' : stopsAt [')'] [] rest' = true)
    (heq : (paging.elim [] fun lexemes =>
          spaced given ++ Lexeme.mark ' ' :: lexemes) ++ rest =
      (other.elim [] fun lexemes =>
          spaced given ++ Lexeme.mark ' ' :: lexemes) ++ rest') :
    spaced paging ++ rest = spaced other ++ rest' := by
  have hspace : ∀ lexemes after : List Lexeme,
      stopsAt [')'] [] (spaced given ++ Lexeme.mark ' ' :: lexemes ++ after) ≠
        true := by
    intro lexemes after hstops
    have hhead := head_of_stopsAt hstops (.mark ' ') (by cases given <;> rfl)
    cases hhead
  cases paging with
  | none =>
      cases other with
      | none => exact heq
      | some lexemes =>
          rw [Option.elim_none, Option.elim_some, List.nil_append] at heq
          exact absurd (heq ▸ hrest) (hspace lexemes rest')
  | some lexemes =>
      cases other with
      | none =>
          rw [Option.elim_none, Option.elim_some, List.nil_append] at heq
          exact absurd (heq ▸ hrest') (hspace lexemes rest)
      | some others =>
          rw [Option.elim_some, Option.elim_some, List.append_assoc,
            List.append_assoc] at heq
          exact List.append_cancel_left heq

/-- The order that a paging is given without one is not an order of the
statement. -/
theorem tailLexemes_ne {select other : Select} (hselect : select.order = [])
    (hother : other.order ≠ []) (hexact : ∀ field ∈ other.order, field.Exact)
    {rest rest' : List Lexeme} (hrest : stopsAt [')'] [] rest = true) :
    select.tailLexemes known ++ rest ≠ other.tailLexemes known ++ rest' := by
  intro heq
  have hpaging := known.stopsAt_paging select.limit select.offset hrest
  rw [tailLexemes_unordered hselect, tailLexemes_ordered hother] at heq
  cases hlexemes : known.pagingLexemes select.limit select.offset with
  | none =>
      rw [hlexemes, Option.elim_none, List.nil_append] at heq
      rw [heq] at hrest
      cases hrest
  | some paging =>
      rw [hlexemes, Option.elim_some] at heq
      rcases known.pagingOrder_lexemes with hgiven | hgiven
      -- Without a given order the paging begins with a word of its own.
      · rw [hlexemes, spaced] at hpaging
        rw [hgiven, spaced, List.nil_append] at heq
        rw [heq] at hpaging
        cases hpaging
      · rw [hgiven] at heq
        simp only [Dialect.Known.orderOfOne, spaced, List.cons_append,
          List.append_assoc, List.nil_append, List.cons.injEq,
          true_and] at heq
        exact OrderField.list_ne_one hother hexact _ _ heq.symm

theorem tail_unmistakable {select : Select}
    (hexact : ∀ field ∈ select.order, field.Exact)
    (hclear : ∀ field ∈ select.order, field.expr.Clear known) :
    Unmistakable (tailLexemes known)
      (fun select => (select.order.map (OrderField.normal known),
        known.normalPaging select.limit select.offset))
      (fun select => ∀ field ∈ select.order, field.Exact)
      (stopsAt [')'] []) select := by
  intro other hother rest rest' hrest hrest' heq
  have hpaging := known.paging_unmistakable (select.limit, select.offset)
    (other.limit, other.offset) trivial rest rest' hrest hrest'
  by_cases hselect : select.order = []
  · by_cases hotherOrder : other.order = []
    · rw [tailLexemes_unordered hselect, tailLexemes_unordered hotherOrder]
        at heq
      obtain ⟨hnormal, hend⟩ := hpaging (spaced_of_given hrest hrest' heq)
      exact ⟨Prod.ext (by simp [hselect, hotherOrder]) hnormal, hend⟩
    · exact absurd heq (tailLexemes_ne hselect hotherOrder hother hrest)
  · by_cases hotherOrder : other.order = []
    · exact absurd heq.symm (tailLexemes_ne hotherOrder hselect hexact hrest')
    · rw [tailLexemes_ordered hselect, tailLexemes_ordered hotherOrder] at heq
      simp only [List.cons_append, List.append_assoc, List.cons.injEq,
        true_and] at heq
      obtain ⟨hfields, hpagings⟩ := OrderField.list_unmistakable hexact hclear
        other.order hother _ _ (known.stopsAt_paging _ _ hrest)
        (known.stopsAt_paging _ _ hrest') heq
      obtain ⟨hnormal, hend⟩ := hpaging hpagings
      exact ⟨Prod.ext hfields hnormal, hend⟩

/-! ## Statements -/

theorem stopsAt_tail (select : Select) {rest : List Lexeme}
    (hrest : stopsAt [')'] [] rest = true) :
    stopsAt [')'] orderWords (select.tailLexemes known ++ rest) = true := by
  have hpaging : stopsAt [')'] orderWords
      (spaced (known.pagingLexemes select.limit select.offset) ++ rest) =
        true :=
    stopsAt_mono (by simp) (List.subset_cons_self _ _)
      (known.stopsAt_paging _ _ hrest)
  by_cases horder : select.order = []
  · rw [tailLexemes_unordered horder]
    cases hlexemes : known.pagingLexemes select.limit select.offset with
    | none => rwa [hlexemes] at hpaging
    | some paging =>
        rcases known.pagingOrder_lexemes with hgiven | hgiven
        · rw [hlexemes] at hpaging
          rwa [hgiven]
        · rw [hgiven]
          rfl
  · rw [tailLexemes_ordered horder]
    rfl

theorem stopsAt_where (filter : Option Condition) {rest : List Lexeme}
    (hrest : stopsAt [')'] orderWords rest = true) :
    stopsAt [')'] whereWords
      (filter.elim [] (Condition.whereLexemes known) ++ rest) = true := by
  cases filter with
  | none => exact stopsAt_mono (by simp) (List.subset_cons_self _ _) hrest
  | some condition => rfl

theorem stopsAt_joins {joins : List Join}
    (hexact : ∀ join ∈ joins, join.Exact) {rest : List Lexeme}
    (hrest : stopsAt [')'] whereWords rest = true) :
    stopsAt [')'] joinWords
      ((joins.flatMap fun join => .mark ' ' :: join.lexemes known) ++ rest) =
        true :=
  Join.delimits.stops_flatMap hexact hrest

/-- No item begins with DISTINCT. -/
theorem distinct_unmistakable {distinct other : Bool} {items others : List Expr}
    (hitems : ∀ item ∈ items, item.Exact)
    (hothers : ∀ item ∈ others, item.Exact) {rest rest' : List Lexeme}
    (heq : (if distinct then [.word "DISTINCT", .mark ' '] else []) ++
        (separated comma (items.map (Expr.lexemes known)) ++
          Lexeme.mark ' ' :: rest) =
      (if other then [.word "DISTINCT", .mark ' '] else []) ++
        (separated comma (others.map (Expr.lexemes known)) ++
          Lexeme.mark ' ' :: rest')) :
    distinct = other ∧
      separated comma (items.map (Expr.lexemes known)) ++
          Lexeme.mark ' ' :: rest =
        separated comma (others.map (Expr.lexemes known)) ++
          Lexeme.mark ' ' :: rest' := by
  cases distinct <;> cases other
  · exact ⟨rfl, heq⟩
  · exact absurd (Expr.not_keyword_of_list hitems heq) (by decide)
  · exact absurd (Expr.not_keyword_of_list hothers heq.symm) (by decide)
  · exact ⟨rfl, List.append_cancel_left heq⟩

theorem clear_of_children {select : Select} (hexact : select.Exact)
    (hitems : ∀ item ∈ select.items, item.Clear known)
    (hjoins : ∀ join ∈ select.joins, join.on.Clear known)
    (hfilter : ∀ condition ∈ select.filter, condition.Clear known)
    (horder : ∀ field ∈ select.order, field.expr.Clear known) :
    select.Clear known := by
  intro other hother rest rest' hrest hrest' heq
  rw [select.lexemes_eq, other.lexemes_eq] at heq
  simp only [List.cons_append, List.append_assoc, List.cons.injEq, true_and]
    at heq
  obtain ⟨hdistinct, hselected⟩ :=
    distinct_unmistakable hexact.items hother.items heq
  obtain ⟨hitemsNormal, hfroms⟩ := Expr.list_unmistakable hexact.items hitems
    other.items hother.items _ _ rfl rfl hselected
  simp only [List.cons.injEq, true_and] at hfroms
  obtain ⟨htablesNormal, hjoinings⟩ := Table.list_unmistakable select.tables
    other.tables (fun _ _ => trivial) _ _
    (stopsAt_joins hexact.joins (stopsAt_where _ (stopsAt_tail select hrest)))
    (stopsAt_joins hother.joins (stopsAt_where _ (stopsAt_tail other hrest')))
    hfroms
  obtain ⟨hjoinsNormal, hwheres⟩ := Unmistakable.flatMap Join.delimits
    hexact.joins (fun join hjoin => Join.unmistakable (hjoins join hjoin))
    other.joins hother.joins _ _ (stopsAt_where _ (stopsAt_tail select hrest))
    (stopsAt_where _ (stopsAt_tail other hrest')) hjoinings
  obtain ⟨hfilterNormal, htails⟩ := Condition.where_unmistakable
    hexact.filter hfilter other.filter hother.filter _ _
    (stopsAt_tail select hrest) (stopsAt_tail other hrest') hwheres
  obtain ⟨htailNormal, hend⟩ := tail_unmistakable hexact.order horder other
    hother.order rest rest' hrest hrest' htails
  obtain ⟨horderNormal, hpagingNormal⟩ := Prod.mk.inj htailNormal
  refine ⟨?_, hend⟩
  rw [select.normal_eq, other.normal_eq, hdistinct, hitemsNormal,
    htablesNormal, hjoinsNormal, hfilterNormal, horderNormal, hpagingNormal]

end Select

/-! ## All nodes -/

/-- All that is read at the node is unmistakable. -/
def Node.Clear (known : Dialect.Known) : Node → Prop
  | select s => s.Clear known
  | items es => ∀ e ∈ es, e.Clear known
  | tables _ => True
  | join j => j.on.Clear known
  | filter c => c.Clear known
  | order fs => ∀ f ∈ fs, f.expr.Clear known
  | orderField f => f.expr.Clear known
  | table _ => True
  | expr e => e.Clear known
  | condition c => c.Readable known

theorem Node.clear (known : Dialect.Known) {node : Node}
    (hexact : node.Throughout Node.isExact) : node.Clear known := by
  induction node using Node.inductionOn with
  | step node ih =>
      have hchild : ∀ child ∈ node.children, child.Clear known :=
        fun child hmem => ih child hmem (hexact.of_mem_children hmem)
      cases node with
      | select select =>
          apply Select.clear_of_children hexact
          · exact hchild (.items select.items) List.mem_cons_self
          · exact fun join hjoin =>
              hchild (.join join) (Select.join_mem_children hjoin)
          · exact fun condition hcondition =>
              hchild (.filter condition) (Select.filter_mem_children hcondition)
          · intro field hfield
            exact hchild (.order select.order)
              (Select.order_mem_children hfield) field hfield
      | items items =>
          exact fun item hitem =>
            hchild (.expr item) (List.mem_map_of_mem hitem)
      | tables tables => trivial
      | join join =>
          have hon : join.on.Readable known := hchild (.condition join.on)
            (List.mem_cons_of_mem _ List.mem_cons_self)
          exact hon.whole
      | filter condition =>
          have hcondition : condition.Readable known :=
            hchild (.condition condition) List.mem_cons_self
          exact hcondition.whole
      | order fields =>
          exact fun field hfield =>
            hchild (.orderField field) (List.mem_map_of_mem hfield)
      | orderField field => exact hchild (.expr field.expr) List.mem_cons_self
      | table table => trivial
      | expr expr =>
          apply Expr.clear_of_children hexact
          · rintro select rfl
            exact hchild (.select select) List.mem_cons_self
          · rintro name args rfl arg harg
            exact hchild (.expr arg) (List.mem_map_of_mem harg)
      | condition condition =>
          exact Condition.readable_of_children hexact
            (fun expr hmem => hchild (.expr expr) hmem)
            fun inner hmem => hchild (.condition inner) hmem

/-! ## Rendered statements -/

/-- Two statements with the same text, all names quoted, have the same normal
form. -/
theorem normal_eq_of_renderSelect_eq (known : Dialect.Known) (s t : Select)
    (hs : s.Obtainable) (ht : t.Obtainable) (hsExact : s.Exact)
    (htExact : t.Exact)
    (htext : known.quotingAll.renderSelect s =
      known.quotingAll.renderSelect t) :
    s.normal known = t.normal known := by
  have hplain : ∀ select : Select, select.Exact →
      (Node.select select).Throughout Node.isPlain := fun select h node hnode =>
    Node.isPlain_of_isExact (h node hnode)
  obtain ⟨sText, hsRender, hsLexemes⟩ :=
    hs.lexemes?_render (hplain s hsExact) known
  obtain ⟨tText, htRender, htLexemes⟩ :=
    ht.lexemes?_render (hplain t htExact) known
  have hsame : sText = tText := by
    rw [hsRender, htRender] at htext
    exact Except.ok.inj htext
  have hlexemes : s.lexemes known = t.lexemes known := by
    rw [hsame, htLexemes] at hsLexemes
    exact (Option.some.inj hsLexemes).symm
  have hclear : s.Clear known := Node.clear known hsExact
  exact (hclear t htExact [] [] rfl rfl (congrArg (· ++ []) hlexemes)).1

namespace Draft

def differs (id : Int64) : Condition :=
  .comparison (.column userId) .ne (.literal (.integer id))

def chained (chain : Condition) (paging : List Step) : Draft :=
  (start [.column userId] [users]).addAll (.filter chain :: paging)

def grouped : Draft :=
  chained (.and (.and (.or (differs 1) (differs 2)) (differs 3)) (differs 4))
    [.offset 5]

/-- The same text in MySQL. -/
def regrouped : Draft :=
  chained
    (.and (.nested (.or (differs 1) (differs 2)))
      (.and (differs 3) (differs 4)))
    [.limit 18446744073709551615, .offset 5]

theorem chained_obtainable {chain : Condition} {paging : List Step}
    (hsubs : inputSubSelects [.column userId] (.filter chain :: paging) = [])
    (hbuild : (chained chain paging).build =
      .ok (chained chain paging).select) :
    (chained chain paging).select.Obtainable := by
  refine .build ?_ hbuild
  intro sub hsub
  rw [hsubs] at hsub
  cases hsub

end Draft

theorem normal_eq_of_regrouping :
    Draft.grouped.select.Obtainable ∧ Draft.regrouped.select.Obtainable ∧
      Draft.grouped.select.Exact ∧ Draft.regrouped.select.Exact ∧
      Dialect.Known.mysql.quotingAll.renderSelect Draft.grouped.select =
        Dialect.Known.mysql.quotingAll.renderSelect Draft.regrouped.select ∧
      Draft.grouped.select.limit ≠ Draft.regrouped.select.limit ∧
      Draft.grouped.select.normal .mysql =
        Draft.regrouped.select.normal .mysql := by
  have hexact : ∀ select : Select,
      (Node.select select).nodes.all Node.isExact = true → select.Exact :=
    fun select h node hnode => List.all_eq_true.mp h node hnode
  have hgrouped : Draft.grouped.select.Obtainable :=
    Draft.chained_obtainable (by cbv) (by cbv)
  have hregrouped : Draft.regrouped.select.Obtainable :=
    Draft.chained_obtainable (by cbv) (by cbv)
  have hgroupedExact : Draft.grouped.select.Exact := hexact _ (by cbv)
  have hregroupedExact : Draft.regrouped.select.Exact := hexact _ (by cbv)
  have htext :
      Dialect.Known.mysql.quotingAll.renderSelect Draft.grouped.select =
        Dialect.Known.mysql.quotingAll.renderSelect Draft.regrouped.select := by
    cbv
  have hlimit : Draft.grouped.select.limit ≠ Draft.regrouped.select.limit :=
    (Option.some_ne_none 18446744073709551615).symm
  exact ⟨hgrouped, hregrouped, hgroupedExact, hregroupedExact, htext, hlimit,
    normal_eq_of_renderSelect_eq .mysql _ _ hgrouped hregrouped hgroupedExact
      hregroupedExact htext⟩

end SqlStatement
