import SqlStatement.Identifier

/-!
# Tables and columns

A statement refers to an aliased table by its alias and to any other table by
its name.  Equality follows the reference: an alias hides the name behind it,
and a table with an alias never equals one without.
-/

namespace SqlStatement

structure Table where
  name : Identifier
  aliasName? : Option Identifier

namespace Table

/-- The table of this name, without an alias. -/
def ofIdentifier (name : Identifier) : Table :=
  ⟨name, none⟩

/-- The same table under another alias. -/
def withAlias (table : Table) (aliasName : Identifier) : Table :=
  { table with aliasName? := some aliasName }

/-- The identifier by which columns and clauses refer to the table. -/
def reference (table : Table) : Identifier :=
  table.aliasName?.getD table.name

/-- The table's name and alias in messages. -/
def text (table : Table) : String :=
  match table.aliasName? with
  | none => table.name.name
  | some aliasName => table.name.name ++ " AS " ++ aliasName.name

protected def beq (a b : Table) : Bool :=
  match a.aliasName?, b.aliasName? with
  | none, none => a.name == b.name
  | some a, some b => a == b
  | _, _ => false

instance : BEq Table := ⟨Table.beq⟩

/-- The data by which tables are hashed. -/
def hashKey (table : Table) : Bool × String :=
  (table.aliasName?.isSome, table.reference.hashKey)

instance : Hashable Table := ⟨fun table => hash table.hashKey⟩

theorem beq_iff_hashKey (a b : Table) :
    (a == b) = true ↔ a.hashKey = b.hashKey := by
  change Table.beq a b = true ↔ _
  obtain ⟨_, _ | _⟩ := a <;> obtain ⟨_, _ | _⟩ := b <;>
    simp [Table.beq, hashKey, reference, Identifier.beq_iff_hashKey]

instance : EquivBEq Table :=
  equivBEq_of_key hashKey beq_iff_hashKey

instance : LawfulHashable Table :=
  lawfulHashable_of_key hashKey (fun _ => rfl) beq_iff_hashKey

end Table

structure Column where
  table : Table
  name : Identifier

namespace Column

/-- The column's name after its table's reference name, in messages. -/
def text (column : Column) : String :=
  column.table.reference.name ++ "." ++ column.name.name

instance : BEq Column := ⟨fun a b => a.name == b.name && a.table == b.table⟩

/-- The data by which columns are hashed. -/
def hashKey (column : Column) : String × Bool × String :=
  (column.name.hashKey, column.table.hashKey)

instance : Hashable Column := ⟨fun column => hash column.hashKey⟩

theorem beq_iff_hashKey (a b : Column) :
    (a == b) = true ↔ a.hashKey = b.hashKey := by
  change (a.name == b.name && a.table == b.table) = true ↔ _
  simp only [Bool.and_eq_true, Identifier.beq_iff_hashKey,
    Table.beq_iff_hashKey, hashKey, Prod.mk.injEq]

instance : EquivBEq Column :=
  equivBEq_of_key hashKey beq_iff_hashKey

instance : LawfulHashable Column :=
  lawfulHashable_of_key hashKey (fun _ => rfl) beq_iff_hashKey

end Column

end SqlStatement
