import SqlStatement.Proofs.Labels
import Mathlib

/-!
# Names and strings in a statement

The quoted lexemes of what is written for a node are the names and strings of
the tree below it, in the order of the tree: each of them is written once, and
none is made up.
-/

namespace SqlStatement

/-! ## Names and strings of a tree -/

namespace Node

/-- What a node names itself, and not in its children.  A column and the
asterisk of a table name the table by its reference. -/
def ownContents : Node → List Lexeme
  | table t =>
      .name t.name.name :: t.aliasName?.toList.map fun a => .name a.name
  | expr (.column c) => [.name c.table.reference.name, .name c.name.name]
  | expr (.asterisk (some t)) => [.name t.reference.name]
  | expr (.literal (.string value)) => [.string value]
  | _ => []

def contents (node : Node) : List Lexeme :=
  node.nodes.flatMap ownContents

theorem contents_eq (node : Node) :
    node.contents = node.ownContents ++ node.children.flatMap contents := by
  unfold contents
  rw [nodes_eq, List.flatMap_cons, List.flatMap_assoc]

end Node

namespace Lexeme

def quotedOf (lexemes : List Lexeme) : List Lexeme :=
  lexemes.filter isQuoted

@[simp] theorem quotedOf_append (before after : List Lexeme) :
    quotedOf (before ++ after) = quotedOf before ++ quotedOf after := by
  simp [quotedOf]

end Lexeme

namespace Piece

open Lexeme

def contents : Piece → List Lexeme
  | name n => [.name n.name]
  | literal (.string value) => [.string value]
  | text _ | literal _ => []

theorem quotedOf_lexemes (piece : Piece) :
    quotedOf piece.lexemes = piece.contents := by
  have hplain : ∀ text : List Char, quotedOf (Lexeme.plain text) = [] := by
    intro text
    rw [quotedOf, List.filter_eq_nil_iff]
    intro lexeme hmem
    simp [isQuoted_of_mem_plain text lexeme hmem]
  cases piece with
  | text text => exact hplain text.toList
  | name name => rfl
  | literal value =>
      cases value with
      | string value => rfl
      | integer _ | float _ | boolean _ | null => exact hplain _

theorem quotedOf_lexemesOf (pieces : List Piece) :
    quotedOf (lexemesOf pieces) = pieces.flatMap contents := by
  induction pieces with
  | nil => rfl
  | cons piece pieces ih =>
      rw [lexemesOf_cons, quotedOf_append, quotedOf_lexemes, ih,
        List.flatMap_cons]

theorem flatMap_contents_labels (piece : Piece) :
    piece.labels.flatMap contents = piece.contents := by
  cases piece with
  | text text => rfl
  | name name => rfl
  | literal value => simp [labels]

end Piece

/-! ## They are written in the order of the tree -/

namespace Node

theorem flatMap_contents_ownLabels (node : Node) :
    node.ownLabels.flatMap Piece.contents = node.ownContents := by
  cases node with
  | table t => obtain ⟨name, _ | aliasName⟩ := t <;> rfl
  | expr e =>
      cases e with
      | asterisk t => cases t <;> rfl
      | literal value => cases value <;> rfl
      | _ => rfl
  | _ => rfl

theorem contents_pieces (known : Dialect.Known) (node : Node) :
    (node.pieces known.dialect).flatMap Piece.contents = node.contents := by
  have hpieces : ∀ pieces : List Piece, pieces.flatMap Piece.contents =
      (pieces.flatMap Piece.labels).flatMap Piece.contents := by
    intro pieces
    rw [List.flatMap_assoc]
    exact List.flatMap_congr fun piece _ =>
      piece.flatMap_contents_labels.symm
  have hnodes : node.labels.flatMap Piece.contents = node.contents := by
    unfold labels contents
    rw [List.flatMap_assoc]
    exact List.flatMap_congr fun below _ => below.flatMap_contents_ownLabels
  rw [hpieces, node.labels_pieces, hnodes]

end Node

end SqlStatement
