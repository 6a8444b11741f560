import SqlStatement.Error
import SqlStatement.Table

/-!
# Names given as text

Identifiers, tables and columns from texts.  The only thing that can go wrong is
a blank name.
-/

namespace SqlStatement

/-- An identifier of this name, unless the name is blank. -/
def Identifier.create (name : String) (quoted : Bool) :
    Except Error Identifier :=
  match Identifier.named? name quoted with
  | some id => .ok id
  | none => .error (.invalidArgument .blankName)

def Identifier.unquoted (name : String) : Except Error Identifier :=
  Identifier.create name false

namespace Table

def create (name : String) : Except Error Table :=
  ofIdentifier <$> Identifier.unquoted name

/-- The name is looked at before the alias. -/
def aliased (name aliasName : String) : Except Error Table := do
  let table ← create name
  return table.withAlias (← Identifier.unquoted aliasName)

def column (table : Table) (name : String) : Except Error Column :=
  (⟨table, ·⟩) <$> Identifier.unquoted name

/-- The columns of these names, in order; the first blank name is reported. -/
def columns (table : Table) (names : List String) :
    Except Error (List Column) :=
  names.mapM table.column

end Table

end SqlStatement
