import SqlStatement.Dialect
import SqlStatement.Literal
import SqlStatement.Quoting

/-!
# Pieces of text and their style

A statement is laid out as a list of pieces: names, literals, and all the words,
operators and marks between them.  A style, that is a dialect and a quoting
mode, turns the pieces into text.  Only here is decided how a name is spelled.
-/

namespace SqlStatement

inductive Piece where
  | text (text : String)
  | name (name : Identifier)
  | literal (value : Literal)

structure Style where
  dialect : Dialect
  quoting : Quoting

namespace Style

def identifier (style : Style) (name : Identifier) : String :=
  if style.quoting.applies name.quoted then style.dialect.quoted name.name
  else name.name

def piece (style : Style) : Piece → String
  | .text text => text
  | .name name => style.identifier name
  | .literal value => value.sql

def write (style : Style) (pieces : List Piece) : String :=
  String.join (pieces.map style.piece)

@[simp] theorem write_nil (style : Style) : style.write [] = "" :=
  rfl

@[simp] theorem write_cons (style : Style) (piece : Piece)
    (pieces : List Piece) :
    style.write (piece :: pieces) =
      style.piece piece ++ style.write pieces := by
  simp [write]

@[simp] theorem write_append (style : Style) (before after : List Piece) :
    style.write (before ++ after) =
      style.write before ++ style.write after := by
  simp [write]

end Style

namespace Piece

def parenthesised (pieces : List Piece) : List Piece :=
  text "(" :: pieces ++ [text ")"]

/-- In parentheses if `wrap` says so. -/
def parenthesisedIf (wrap : Bool) (pieces : List Piece) : List Piece :=
  if wrap then parenthesised pieces else pieces

def commaSeparated (parts : List (List Piece)) : List Piece :=
  [text ", "].intercalate parts

end Piece

end SqlStatement
