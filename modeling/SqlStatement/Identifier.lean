import SqlStatement.KeyEquality
import SqlStatement.Text.Blank
import SqlStatement.Text.Quoted

/-!
# Identifiers

An identifier is a name that is not blank, together with a wish to see it
quoted.  The wish is a matter of spelling: two identifiers are equal when their
names are.
-/

namespace SqlStatement

structure Identifier where
  name : String
  quoted : Bool
  name_not_blank : Text.isBlank name = false

namespace Identifier

/-- A blank name makes no identifier. -/
def named? (name : String) (quoted : Bool) : Option Identifier :=
  if h : Text.isBlank name = false then some ⟨name, quoted, h⟩ else none

/-- The data by which identifiers are hashed. -/
def hashKey (id : Identifier) : String :=
  id.name

instance : BEq Identifier := ⟨fun a b => a.name == b.name⟩

instance : Hashable Identifier := ⟨fun id => hash id.hashKey⟩

theorem beq_iff_hashKey (a b : Identifier) :
    (a == b) = true ↔ a.hashKey = b.hashKey := by
  change (a.name == b.name) = true ↔ a.name = b.name
  exact beq_iff_eq

instance : EquivBEq Identifier :=
  equivBEq_of_key hashKey beq_iff_hashKey

instance : LawfulHashable Identifier :=
  lawfulHashable_of_key hashKey (fun _ => rfl) beq_iff_hashKey

/-- The name in a statement, quoted with `quote` if `quoted` says so. -/
def sqlWith (id : Identifier) (quote : Char) (quoted : Bool) : String :=
  if quoted then Text.Quoted.encode quote id.name else id.name

/-- The name in a statement that follows the identifier's own wish. -/
def sql (id : Identifier) (quote : Char) : String :=
  id.sqlWith quote id.quoted

end Identifier

end SqlStatement
