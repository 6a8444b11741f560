import SqlStatement.Decimal.Shortest
import SqlStatement.Text.Quoted

/-!
# Literals
-/

namespace SqlStatement

inductive Literal where
  | integer (value : Int64)
  | float (value : Binary64)
  | string (value : String)
  | boolean (value : Bool)
  | null

namespace Literal

/-- The literal in a statement.  A quote in a string is written twice. -/
def sql : Literal → String
  | integer value => toString value.toInt
  | float value => value.text
  | string value => "'" ++ Text.replaceChar '\'' "''" value ++ "'"
  | boolean value => if value then "TRUE" else "FALSE"
  | null => "NULL"

/-- Floats are compared as numbers. -/
protected def beq : Literal → Literal → Bool
  | integer a, integer b => a == b
  | float a, float b => a == b
  | string a, string b => a == b
  | boolean a, boolean b => a == b
  | null, null => true
  | _, _ => false

instance : BEq Literal := ⟨Literal.beq⟩

end Literal

end SqlStatement
