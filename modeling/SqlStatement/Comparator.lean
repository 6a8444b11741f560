import SqlStatement.Error

/-!
# Comparison operators
-/

namespace SqlStatement

inductive Comparator where
  | eq
  | ne
  | lt
  | le
  | gt
  | ge
deriving DecidableEq

namespace Comparator

def sql : Comparator → String
  | eq => "="
  | ne => "!="
  | lt => "<"
  | le => "<="
  | gt => ">"
  | ge => ">="

/-- Both spellings of inequality are read. -/
def ofText? : String → Option Comparator
  | "=" => some eq
  | "!=" => some ne
  | "<>" => some ne
  | "<" => some lt
  | "<=" => some le
  | ">" => some gt
  | ">=" => some ge
  | _ => none

/-- The operator written in `text`, which may have white space around it. -/
def read (text : String) : Except Error Comparator :=
  let text := Text.trim text
  match ofText? text with
  | some comparator => .ok comparator
  | none => .error (.invalidArgument (.unknownComparator text))

end Comparator

end SqlStatement
