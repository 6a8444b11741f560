import SqlStatement.Error

/-!
# Equality of errors

An argument that was refused, and an operation that is not supported, are known
by what is said about them.  Missing imports are equal when they were found in
the same clause and all their names are equal.
-/

namespace SqlStatement

instance : BEq InvalidArgument := ⟨fun a b => a.message == b.message⟩

theorem InvalidArgument.beq_iff_message (a b : InvalidArgument) :
    (a == b) = true ↔ a.message = b.message := by
  change (a.message == b.message) = true ↔ _
  exact beq_iff_eq

instance : EquivBEq InvalidArgument :=
  equivBEq_of_key InvalidArgument.message InvalidArgument.beq_iff_message

instance : BEq Unsupported := ⟨fun a b => a.message == b.message⟩

theorem Unsupported.beq_iff_message (a b : Unsupported) :
    (a == b) = true ↔ a.message = b.message := by
  change (a.message == b.message) = true ↔ _
  exact beq_iff_eq

instance : EquivBEq Unsupported :=
  equivBEq_of_key Unsupported.message Unsupported.beq_iff_message

instance : BEq MissingImport :=
  ⟨fun a b => a.clause == b.clause && a.missing == b.missing &&
    a.fromNames == b.fromNames && a.joinNames == b.joinNames⟩

/-- Errors of different kinds differ, also when they say the same. -/
protected def Error.beq : Error → Error → Bool
  | .invalidArgument a, .invalidArgument b => a == b
  | .missingImport a, .missingImport b => a == b
  | .internal a, .internal b => a == b
  | .unsupported a, .unsupported b => a == b
  | _, _ => false

instance : BEq Error := ⟨Error.beq⟩

end SqlStatement
