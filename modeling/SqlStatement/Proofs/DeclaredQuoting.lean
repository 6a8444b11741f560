import SqlStatement.Proofs.Relabelling
import SqlStatement.Proofs.StyleAgreement
import Mathlib.Tactic

/-!
# What a declared quote counts for

An identifier can be declared to be quoted.  Trees that differ in nothing but
such declarations are rendered to one text when all names are quoted, and to
one text when none is.  When names are quoted as declared, a tree in which no
name is declared quoted is rendered as if none was to be quoted, and a tree in
which every name is, as if all were.
-/

namespace SqlStatement

/-- Withdraws what was declared of the identifiers of a tree. -/
def Relabelling.undeclared : Relabelling where
  name := Identifier.bare
  marker := Identifier.bare
  literal := id
  name_marker := Identifier.name_bare

/-! ## What can be rendered -/

inductive Fragment where
  | select (select : Select)
  | condition (condition : Condition)
  | expr (expr : Expr)

namespace Fragment

def node : Fragment → Node
  | select s => .select s
  | condition c => .condition c
  | expr e => .expr e

/-- The fragment without what was declared of its identifiers. -/
def undeclared : Fragment → Fragment
  | select s => select (s.relabel .undeclared)
  | condition c => condition (c.relabel .undeclared)
  | expr e => expr (e.relabel .undeclared)

def render (style : Style) : Fragment → Except Error String
  | select s => style.renderSelect s
  | condition c => style.renderCondition c
  | expr e => style.renderExpr e

theorem node_undeclared (fragment : Fragment) :
    fragment.undeclared.node = fragment.node.relabel .undeclared := by
  cases fragment <;> rfl

theorem render_eq (style : Style) {fragment : Fragment}
    (h : fragment.node.Built) :
    fragment.render style =
      .ok (style.write (fragment.node.pieces style.dialect)) := by
  cases fragment with
  | select s => exact style.renderSelect_eq s (h s List.mem_cons_self)
  | condition c => exact style.renderCondition_eq c h
  | expr e => exact style.renderExpr_eq e h

/-- Two fragments are rendered, each in its style, and both to the same text. -/
def RenderedAlike (first : Fragment) (style : Style) (second : Fragment)
    (other : Style) : Prop :=
  ∃ text, first.render style = .ok text ∧ second.render other = .ok text

end Fragment

/-! ## The quoting modes -/

namespace Style

theorem identifier_bare {style : Style} (h : style.quoting ≠ .asDeclared)
    (name : Identifier) :
    style.identifier name.bare = style.identifier name := by
  obtain ⟨dialect, quoting⟩ := style
  cases quoting with
  | asDeclared => exact absurd rfl h
  | always | never => rfl

theorem write_undeclared {style : Style} (h : style.quoting ≠ .asDeclared)
    (pieces : List Piece) :
    style.write (pieces.map Relabelling.undeclared.piece) =
      style.write pieces := by
  have hpiece : ∀ piece : Piece,
      style.piece (Relabelling.undeclared.piece piece) = style.piece piece := by
    intro piece
    cases piece with
    | name name => exact identifier_bare h name
    | text text | literal value => rfl
  rw [write, write, List.map_map]
  exact congrArg String.join (List.map_congr_left fun piece _ => hpiece piece)

end Style

namespace Fragment

variable {dialect : Dialect}

theorem write_undeclared {style : Style} (h : style.quoting ≠ .asDeclared)
    (fragment : Fragment) :
    style.write (fragment.undeclared.node.pieces style.dialect) =
      style.write (fragment.node.pieces style.dialect) := by
  rw [fragment.node_undeclared, Node.pieces_relabel, Style.write_undeclared h]

/-- When every name is declared in the way in which a mode would have it, names
are quoted as declared in this mode. -/
theorem renderedAlike_of_applies {fragment : Fragment} {quoting : Quoting}
    (hbuilt : fragment.node.Built)
    (h : ∀ name, fragment.node.Names name →
      quoting.applies name.quoted = name.quoted) :
    fragment.RenderedAlike ⟨dialect, .asDeclared⟩ fragment
      ⟨dialect, quoting⟩ := by
  have hagrees : (⟨dialect, quoting⟩ : Style).AgreesOn ⟨dialect, .asDeclared⟩
      fragment.node := by
    refine ⟨fun name hname => ?_, rfl, fun _ _ => ?_⟩
    · unfold Style.identifier
      rw [h name hname]
      rfl
    · exact ⟨fun _ => rfl, fun _ => rfl, fun _ _ => rfl⟩
  refine ⟨_, fragment.render_eq _ hbuilt, ?_⟩
  rw [fragment.render_eq _ hbuilt, hagrees.write_eq]

end Fragment

/-- Of two statements, conditions or expressions that differ in declared quotes
only, the texts are the same with all names quoted and with none.  With names
quoted as declared, one that declares no name quoted is rendered as with none,
and one that declares every name quoted as with all.  A bind marker is written
as it is named, whatever is declared of it, so that its name does not count. -/
theorem declared_quotes_count_as_declared (dialect : Dialect) :
    (∀ first second : Fragment, first.node.Built → second.node.Built →
      first.undeclared = second.undeclared →
        ∀ quoting : Quoting, quoting ≠ .asDeclared →
          first.RenderedAlike ⟨dialect, quoting⟩ second ⟨dialect, quoting⟩) ∧
    ∀ fragment : Fragment, fragment.node.Built →
      ((∀ name, fragment.node.Names name → name.quoted = false) →
        fragment.RenderedAlike ⟨dialect, .asDeclared⟩ fragment
          ⟨dialect, .never⟩) ∧
      ((∀ name, fragment.node.Names name → name.quoted = true) →
        fragment.RenderedAlike ⟨dialect, .asDeclared⟩ fragment
          ⟨dialect, .always⟩) := by
  refine ⟨?_, fun fragment hbuilt => ⟨?_, ?_⟩⟩
  · intro first second hfirst hsecond hsame quoting hquoting
    have hwritten : ∀ fragment : Fragment,
        (⟨dialect, quoting⟩ : Style).write
            (fragment.undeclared.node.pieces dialect) =
          (⟨dialect, quoting⟩ : Style).write
            (fragment.node.pieces dialect) := fun fragment =>
      fragment.write_undeclared hquoting
    refine ⟨_, first.render_eq _ hfirst, ?_⟩
    rw [second.render_eq _ hsecond, ← hwritten first, ← hwritten second, hsame]
  · intro hnone
    exact Fragment.renderedAlike_of_applies hbuilt fun name hname =>
      (hnone name hname).symm
  · intro hall
    exact Fragment.renderedAlike_of_applies hbuilt fun name hname =>
      (hall name hname).symm

namespace Draft

/-- Who has a certain id, with all identifiers declared in the same way. -/
def withId (quoted : Bool) : Draft :=
  let people : Table :=
    ⟨⟨"people", quoted, by decide⟩, some ⟨"p", quoted, by decide⟩⟩
  let id : Identifier := { userId.name with quoted }
  (start [.asterisk (some people)] [people]).addAll
    [.filter (.comparison (.column ⟨people, id⟩) .eq (.bind (some id)))]

theorem select_withId (quoted : Bool) :
    (withId quoted).select =
      let people : Table :=
        ⟨⟨"people", quoted, by decide⟩, some ⟨"p", quoted, by decide⟩⟩
      let id : Identifier := { userId.name with quoted }
      ⟨false, [.asterisk (some people)], [people], [],
        some (.comparison (.column ⟨people, id⟩) .eq (.bind (some id))), [],
        none, none⟩ :=
  rfl

theorem withId_obtainable (quoted : Bool) :
    (withId quoted).select.Obtainable := by
  have hcheck : (withId quoted).select.check = .ok () := by
    cases quoted <;> cbv
  exact Select.obtainable_of_check (List.forall_mem_nil _) hcheck

theorem quoted_of_withId_names {quoted : Bool} {name : Identifier}
    (h : (Node.select (withId quoted).select).Names name) :
    name.quoted = quoted := by
  have hlabels : ∀ label ∈ (Node.select (withId quoted).select).labels,
      ∀ id, label = .name id → id.quoted = quoted := by
    simp [Node.labels_eq, Node.ownLabels, Node.children, Node.childrenOfExpr,
      Node.childrenOfCondition, select_withId, Table.reference]
  exact hlabels _ h name rfl

end Draft

/-- The marker has no quotes in either text. -/
theorem withId_rendered_as_declared :
    ∃ quoted plain,
      (Fragment.select (Draft.withId true).select).render
        ⟨Dialect.mysql, .asDeclared⟩ = .ok quoted ∧
      (Fragment.select (Draft.withId false).select).render
        ⟨Dialect.mysql, .always⟩ = .ok quoted ∧
      (Fragment.select (Draft.withId false).select).render
        ⟨Dialect.mysql, .asDeclared⟩ = .ok plain ∧
      (Fragment.select (Draft.withId true).select).render
        ⟨Dialect.mysql, .never⟩ = .ok plain ∧
      quoted = "SELECT `p`.* FROM `people` AS `p` WHERE `p`.`id` = :id" ∧
      plain = "SELECT p.* FROM people AS p WHERE p.id = :id" := by
  have hbuilt : ∀ quoted : Bool,
      (Fragment.select (Draft.withId quoted).select).node.Built := by
    intro quoted sub hsub
    obtain rfl := List.mem_singleton.mp hsub
    exact Draft.withId_obtainable quoted
  have hsame : (Fragment.select (Draft.withId true).select).undeclared =
      (Fragment.select (Draft.withId false).select).undeclared := rfl
  obtain ⟨hmodes, hdeclared⟩ :=
    declared_quotes_count_as_declared Dialect.mysql
  obtain ⟨quoted, htrue, hfalse⟩ := hmodes _ _ (hbuilt true) (hbuilt false)
    hsame .always (by decide)
  obtain ⟨plain, htrue', hfalse'⟩ := hmodes _ _ (hbuilt true) (hbuilt false)
    hsame .never (by decide)
  obtain ⟨text, hasDeclared, halways⟩ := (hdeclared _ (hbuilt true)).2
    fun _ => Draft.quoted_of_withId_names
  obtain ⟨text', hasDeclared', hnever⟩ := (hdeclared _ (hbuilt false)).1
    fun _ => Draft.quoted_of_withId_names
  obtain rfl := Except.ok.inj (htrue.symm.trans halways)
  obtain rfl := Except.ok.inj (hfalse'.symm.trans hnever)
  have hquoted := hasDeclared.symm.trans (Fragment.render_eq _ (hbuilt true))
  have hplain := hasDeclared'.symm.trans (Fragment.render_eq _ (hbuilt false))
  refine ⟨quoted, plain, hasDeclared, hfalse, hasDeclared', htrue', ?_, ?_⟩
  · rw [Except.ok.inj hquoted]
    cbv
  · rw [Except.ok.inj hplain]
    cbv

end SqlStatement
