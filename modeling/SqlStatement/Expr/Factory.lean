import SqlStatement.Naming
import SqlStatement.Tree

/-!
# Making expressions

What is checked when an expression is made: raw text and function names are not
blank, names of columns and bind markers are not either, and a float is a finite
number.
-/

namespace SqlStatement.Expr.Factory

def asterisk : Expr :=
  .asterisk none

def asteriskFrom (table : Table) : Expr :=
  .asterisk (some table)

/-- Text that goes into the statement as it stands. -/
def just (text : String) : Except Error Expr := do
  require (!Text.isBlank text) .blankRawExpression
  return .raw text

def column (table : Table) (name : String) : Except Error Expr :=
  .column <$> table.column name

def subSelect (select : Select) : Expr :=
  .subSelect select

def integer (value : Int64) : Expr :=
  .literal (.integer value)

def float (value : Binary64) : Except Error Expr := do
  require value.isFinite (.nonFiniteFloat value)
  return .literal (.float value)

def string (value : String) : Expr :=
  .literal (.string value)

def boolean (value : Bool) : Expr :=
  .literal (.boolean value)

def null : Expr :=
  .literal .null

def bindMarker : Expr :=
  .bind none

def namedBindMarker (name : String) : Except Error Expr :=
  (.bind ∘ some) <$> Identifier.unquoted name

/-- A call of a function whose name is known to be good. -/
def builtin (name : String) (args : List Expr) : Expr :=
  .function name args

def count (arg : Expr) : Expr :=
  builtin "COUNT" [arg]

def upper (arg : Expr) : Expr :=
  builtin "UPPER" [arg]

def lower (arg : Expr) : Expr :=
  builtin "LOWER" [arg]

def call (name : String) (args : List Expr) : Except Error Expr := do
  require (!Text.isBlank name) .blankFunctionName
  return .function name args

end SqlStatement.Expr.Factory
