import SqlStatement.Proofs.PagingSections
import SqlStatement.Proofs.StyleAgreement
import Mathlib.Tactic

/-!
# What a dialect has a say in

Two dialects that quote the names of a statement alike, as far as these are
quoted, that put the same word before an alias and that page alike render the
statement to one text, whatever else they differ in.  The dialects that come
with the library have the same word and differ in quoting and paging only.
-/

namespace SqlStatement

namespace Style

variable {style other : Style}

/-- Two styles render a statement, and both to the same text. -/
def RenderAlike (style other : Style) (select : Select) : Prop :=
  ∃ text, style.renderSelect select = .ok text ∧
    other.renderSelect select = .ok text

theorem AgreesOn.renderAlike {select : Select} (hselect : select.Obtainable)
    (h : style.AgreesOn other (.select select)) :
    style.RenderAlike other select := by
  refine ⟨style.select select, style.renderSelect_eq select hselect, ?_⟩
  rw [other.renderSelect_eq select hselect, h.select_eq]

end Style

/-! ## The law -/

/-- Two dialects agree on their policy for a statement that is rendered in this
quoting mode. -/
structure Dialect.SamePolicy (first second : Dialect) (quoting : Quoting)
    (select : Select) : Prop where
  quoted : ∀ name, (Node.select select).Names name →
    quoting.applies name.quoted = true →
      first.quoted name.name = second.quoted name.name
  aliasKeyword : first.aliasKeyword = second.aliasKeyword
  paging : ∀ level, (Node.select select).Reaches (.select level) →
    level.PagedAlike first second

theorem Dialect.SamePolicy.agreesOn {first second : Dialect}
    {quoting : Quoting} {select : Select}
    (h : first.SamePolicy second quoting select) :
    (⟨first, quoting⟩ : Style).AgreesOn ⟨second, quoting⟩
      (.select select) := by
  refine ⟨?_, h.aliasKeyword, h.paging⟩
  intro name hname
  by_cases happlies : quoting.applies name.quoted = true
  · simp [Style.identifier, happlies, h.quoted name hname happlies]
  · simp [Style.identifier, happlies]

/-- On a statement without any paging two dialects differ at most in the quotes
around names. -/
theorem Dialect.Known.samePolicy_of_unpaged {first second : Dialect.Known}
    {quoting : Quoting} {select : Select}
    (hunpaged : ∀ level, (Node.select select).Reaches (.select level) →
      level.limit = none ∧ level.offset = none)
    (hquoted : ∀ name, (Node.select select).Names name →
      quoting.applies name.quoted = true →
        first.dialect.quote = second.dialect.quote) :
    first.dialect.SamePolicy second.dialect quoting select := by
  constructor
  case quoted =>
    intro name hname happlies
    rw [first.quoted_eq, second.quoted_eq, hquoted name hname happlies]
  case aliasKeyword => rw [first.aliasKeyword_eq, second.aliasKeyword_eq]
  case paging =>
    intro level hlevel
    obtain ⟨hlimit, hoffset⟩ := hunpaged level hlevel
    exact .of_unpaged hlimit hoffset

theorem Dialect.Known.quote_eq_of_ne_mysql {known : Known}
    (h : known ≠ .mysql) : known.dialect.quote = '"' := by
  cases known with
  | mysql => exact absurd rfl h
  | _ => rfl

/-- Dialects that agree on their policy for a statement render it to one text.
A statement without any paging is rendered alike by all dialects that come with
the library but MySQL, and by this one, too, if no name is quoted. -/
theorem policy_decides_text (quoting : Quoting) (select : Select)
    (h : select.Obtainable) :
    (∀ first second : Dialect, first.SamePolicy second quoting select →
      (⟨first, quoting⟩ : Style).RenderAlike ⟨second, quoting⟩ select) ∧
    ((∀ level, (Node.select select).Reaches (.select level) →
        level.limit = none ∧ level.offset = none) →
      (∀ first second : Dialect.Known, first ≠ .mysql → second ≠ .mysql →
        (⟨first.dialect, quoting⟩ : Style).RenderAlike
          ⟨second.dialect, quoting⟩ select) ∧
      ((∀ name, (Node.select select).Names name →
          quoting.applies name.quoted = false) →
        ∀ first second : Dialect.Known,
          (⟨first.dialect, quoting⟩ : Style).RenderAlike
            ⟨second.dialect, quoting⟩ select)) := by
  have hpolicy : ∀ first second : Dialect,
      first.SamePolicy second quoting select →
        (⟨first, quoting⟩ : Style).RenderAlike ⟨second, quoting⟩ select :=
    fun first second hsame => hsame.agreesOn.renderAlike h
  refine ⟨hpolicy, fun hunpaged => ⟨?_, ?_⟩⟩
  · intro first second hfirst hsecond
    apply hpolicy
    apply Dialect.Known.samePolicy_of_unpaged hunpaged
    intro _ _ _
    rw [first.quote_eq_of_ne_mysql hfirst, second.quote_eq_of_ne_mysql hsecond]
  · intro hplain first second
    apply hpolicy
    apply Dialect.Known.samePolicy_of_unpaged hunpaged
    intro name hname happlies
    rw [hplain name hname] at happlies
    cases happlies

theorem Node.Reaches.mem_nodes {node target : Node} (h : node.Reaches target) :
    target ∈ node.nodes := by
  induction h with
  | self node =>
      rw [Node.nodes_eq]
      exact List.mem_cons_self
  | child hmem _ ih =>
      rw [Node.nodes_eq]
      exact List.mem_cons_of_mem _ (List.mem_flatMap_of_mem hmem ih)

namespace Draft

theorem select_buyerIds :
    buyerIds.select =
      ⟨false, [.column ⟨orders, buyer⟩], [orders], [], none, [], none, none⟩ :=
  rfl

theorem select_lastBuyerIds :
    lastBuyerIds.select =
      { buyerIds.select with
        order := [⟨.column ⟨orders, buyer⟩, some .desc, none⟩]
        limit := some 5 } :=
  rfl

theorem select_lastBuyers :
    lastBuyers.select =
      ⟨false, [.asterisk (some users)], [users], [],
        some (.inList (.column userId) [.subSelect lastBuyerIds.select] false),
        [], none, some 3⟩ :=
  rfl

theorem eq_of_lastBuyers_reaches {level : Select}
    (h : (Node.select lastBuyers.select).Reaches (.select level)) :
    level = lastBuyers.select ∨ level = lastBuyerIds.select := by
  have hmem := h.mem_nodes
  simpa [Node.nodes_eq, Node.children, Node.childrenOfExpr,
    Node.childrenOfCondition, select_lastBuyers, select_lastBuyerIds,
    select_buyerIds] using hmem

/-- The only quoted name in it is that of the outer table. -/
theorem eq_of_lastBuyers_names {name : Identifier}
    (h : (Node.select lastBuyers.select).Names name)
    (hquoted : name.quoted = true) : name = users.name := by
  have hlabels : ∀ label ∈ (Node.select lastBuyers.select).labels,
      ∀ id, label = .name id → id.quoted = true → id = users.name := by
    simp [Node.labels_eq, Node.ownLabels, Node.children, Node.childrenOfExpr,
      Node.childrenOfCondition, select_lastBuyers, select_lastBuyerIds,
      select_buyerIds, orders, users, userId, buyer, Table.reference]
  exact hlabels _ h name rfl hquoted

end Draft

/-- It pages like SQL Server as long as there is no limit together with an
offset, and puts all names but one in brackets. -/
def Dialect.bracketing : Dialect where
  name := "bracketing"
  limit := sqlServer.limit
  offset := sqlServer.offset
  limitOffset _ _ := "ALL"
  pagingOrder := some "ORDER BY (SELECT 1)"
  supportsArrays := true
  arrayType element := .ok (.array element)
  quote := '['
  quoted name :=
    if name = "users" then "\"users\"" else "[" ++ name ++ "]"

/-- Of a statement with paging on two levels and one quoted name, and of the
inner one without its paging. -/
theorem lastBuyers_rendered_by_policy :
    Draft.lastBuyers.select.Obtainable ∧
      Dialect.bracketing.SamePolicy Dialect.sqlServer .asDeclared
        Draft.lastBuyers.select ∧
      (⟨Dialect.bracketing, .asDeclared⟩ : Style).RenderAlike
        ⟨Dialect.sqlServer, .asDeclared⟩ Draft.lastBuyers.select ∧
      (⟨Dialect.ansi, .always⟩ : Style).RenderAlike
        ⟨Dialect.sqlServer, .always⟩ Draft.buyerIds.select ∧
      (⟨Dialect.mysql, .asDeclared⟩ : Style).RenderAlike
        ⟨Dialect.h2, .asDeclared⟩ Draft.buyerIds.select := by
  have hpolicy : Dialect.bracketing.SamePolicy Dialect.sqlServer .asDeclared
      Draft.lastBuyers.select := by
    constructor
    case quoted =>
      intro name hname happlies
      rw [Draft.eq_of_lastBuyers_names hname happlies]
      decide
    case aliasKeyword => rfl
    case paging =>
      intro level hlevel
      rcases Draft.eq_of_lastBuyers_reaches hlevel with rfl | rfl
      all_goals exact ⟨fun _ => rfl, fun _ => rfl, fun _ _ => rfl⟩
  have hunpaged : ∀ level,
      (Node.select Draft.buyerIds.select).Reaches (.select level) →
        level.limit = none ∧ level.offset = none := by
    intro level hlevel
    have hmem := hlevel.mem_nodes
    have hlevel : level = Draft.buyerIds.select := by
      simpa [Node.nodes_eq, Node.children, Node.childrenOfExpr,
        Draft.select_buyerIds] using hmem
    rw [hlevel]
    exact ⟨rfl, rfl⟩
  have hplain : ∀ name, (Node.select Draft.buyerIds.select).Names name →
      Quoting.asDeclared.applies name.quoted = false := by
    have hlabels : ∀ label ∈ (Node.select Draft.buyerIds.select).labels,
        ∀ id, label = .name id →
          Quoting.asDeclared.applies id.quoted = false := by
      simp [Node.labels_eq, Node.ownLabels, Node.children, Node.childrenOfExpr,
        Draft.select_buyerIds, Draft.orders, Draft.buyer, Table.reference,
        Quoting.applies]
    exact fun name hname => hlabels _ hname name rfl
  obtain ⟨_, halways⟩ := policy_decides_text .always _
    Draft.buyerIds_obtainable
  obtain ⟨_, hdeclared⟩ := policy_decides_text .asDeclared _
    Draft.buyerIds_obtainable
  refine ⟨Draft.lastBuyers_obtainable, hpolicy, ?_, ?_, ?_⟩
  · exact (policy_decides_text .asDeclared _ Draft.lastBuyers_obtainable).1 _ _
      hpolicy
  · exact (halways hunpaged).1 .ansi .sqlServer (by decide) (by decide)
  · exact (hdeclared hunpaged).2 hplain .mysql .h2

end SqlStatement
