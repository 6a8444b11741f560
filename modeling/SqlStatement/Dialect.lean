import SqlStatement.Error
import SqlStatement.Text.Escaped

/-!
# Dialects

A dialect is what databases disagree on: how a result is paged and where in the
statement that is said, which array types there are, and how names are quoted
and tables given an alias.
-/

namespace SqlStatement

inductive PagingPosition where
  | afterWhere
  | afterOrderBy
deriving DecidableEq

def PagingPosition.name : PagingPosition → String
  | afterWhere => "after_where"
  | afterOrderBy => "after_order_by"

/-- Only the name and the three paging texts have to be given. -/
structure Dialect where
  name : String
  /-- Keeps so many rows. -/
  limit : UInt64 → String
  /-- Skips so many rows. -/
  offset : UInt64 → String
  /-- Keeps so many rows, the first argument, after skipping so many, the second
  one. -/
  limitOffset : UInt64 → UInt64 → String
  position : PagingPosition := .afterOrderBy
  /-- The ORDER BY of a statement that is paged and has none, where paging
  demands one. -/
  pagingOrder : Option String := none
  supportsArrays : Bool := false
  /-- The type of the arrays of an element type. -/
  arrayType : DataType → Except Error DataType := fun element =>
    .error (.unsupported (.arrays name element))
  quote : Char := '"'
  quoted : String → String := Text.Quoted.encode quote
  /-- The word between a table and its alias. -/
  aliasKeyword : Option String := some "AS"

namespace Dialect

/-- The dialect in messages. -/
def text (dialect : Dialect) : String :=
  "Dialect \x7b name: " ++ Text.escape dialect.name ++ " \x7d"

/-- The paging text of a statement, if it is paged at all. -/
def paging (dialect : Dialect) : Option UInt64 → Option UInt64 → Option String
  | some limit, some offset => some (dialect.limitOffset limit offset)
  | some limit, none => some (dialect.limit limit)
  | none, some offset => some (dialect.offset offset)
  | none, none => none

end Dialect

end SqlStatement
