import SqlStatement.DataType
import SqlStatement.Decimal.Shortest
import SqlStatement.Identifier

/-!
# Errors

Every refusal is a cause.  `Error.message` gives its wording.
-/

namespace SqlStatement

/-- The reasons for which a part of a statement, or a text that names one, is
refused. -/
inductive InvalidArgument where
  | blankName
  | blankRawExpression
  | blankRawCondition
  | blankFunctionName
  | nonFiniteFloat (value : Binary64)
  | noInArgument
  | unknownComparator (text : String)
  | unknownDialect (text : String)
  | emptySelectList
  | emptyFrom
  | blankRawText
  | emptyInList
  | other (reason : String)

def InvalidArgument.message : InvalidArgument → String
  | blankName => "name must not be empty"
  | blankRawExpression => "raw expression must not be empty"
  | blankRawCondition => "raw condition must not be empty"
  | blankFunctionName => "function name must not be empty"
  | nonFiniteFloat value => "float literal must be finite, got " ++ value.text
  | noInArgument => "IN requires at least one argument"
  | unknownComparator text => "unknown comparator '" ++ text ++ "'"
  | unknownDialect text => "unknown dialect '" ++ text ++ "'"
  | emptySelectList => "select list must not be empty"
  | emptyFrom => "FROM must name at least one table"
  | blankRawText => "raw SQL text must not be empty"
  | emptyInList => "IN list must not be empty"
  | other reason => reason

/-- The clauses whose tables have to be imported. -/
inductive Clause where
  | selectColumn
  | wherePredicate
  | orderByColumn
deriving DecidableEq

def Clause.text : Clause → String
  | selectColumn => "SELECT column"
  | wherePredicate => "WHERE predicate"
  | orderByColumn => "ORDER BY column"

/-- A reference, found in `clause`, to a table that neither FROM nor JOIN names.
-/
structure MissingImport where
  clause : Clause
  missing : Identifier
  fromNames : List Identifier
  joinNames : List Identifier

namespace MissingImport

/-- All names the statement imports, those of FROM first. -/
def available (e : MissingImport) : List Identifier :=
  e.fromNames ++ e.joinNames

def message (e : MissingImport) : String :=
  let list (names : List Identifier) := ", ".intercalate (names.map (·.name))
  "Required table [" ++ e.missing.name ++ "] by a " ++ e.clause.text ++
    " not imported by FROM [" ++ list e.fromNames ++ "] or JOIN [" ++
    list e.joinNames ++ "]"

end MissingImport

/-- What a dialect, or a visitor of a statement, cannot do. -/
inductive Unsupported where
  | arrays (dialect : String) (element : DataType)
  | other (reason : String)

def Unsupported.message : Unsupported → String
  | arrays dialect element =>
      dialect ++ " does not support arrays of " ++ element.sql
  | other reason => reason

inductive Error where
  | invalidArgument (cause : InvalidArgument)
  | missingImport (cause : MissingImport)
  | internal (reason : String)
  | unsupported (cause : Unsupported)

def Error.message : Error → String
  | invalidArgument cause => "invalid argument: " ++ cause.message
  | missingImport cause => cause.message
  | internal reason => "internal error: " ++ reason
  | unsupported cause => "unsupported operation: " ++ cause.message

/-- Refuses with `cause` unless `condition` holds. -/
def require (condition : Bool) (cause : InvalidArgument) : Except Error Unit :=
  if condition then .ok () else .error (.invalidArgument cause)

end SqlStatement
