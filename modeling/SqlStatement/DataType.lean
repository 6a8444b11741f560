/-!
# Column types
-/

namespace SqlStatement

inductive DataType where
  | integer
  | bigint
  | double
  | boolean
  | text
  | varchar (length : Option UInt32)
  | timestamp
  | array (element : DataType)
  /-- A type that only some database knows, under the name it has there. -/
  | custom (name : String)
deriving DecidableEq

/-- The name of the type in a statement. -/
def DataType.sql : DataType → String
  | integer => "INTEGER"
  | bigint => "BIGINT"
  | double => "DOUBLE PRECISION"
  | boolean => "BOOLEAN"
  | text => "TEXT"
  | varchar none => "VARCHAR"
  | varchar (some length) => "VARCHAR(" ++ toString length.toNat ++ ")"
  | timestamp => "TIMESTAMP"
  | array element => element.sql ++ "[]"
  | custom name => name

end SqlStatement
