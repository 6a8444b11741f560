import SqlStatement.Table
import Std.Data.HashSet

/-!
# Sets of names

Identifiers, tables and columns can be kept in hash sets.  Equal ones have the
same hash key, and the other way round, so that a set never holds two equal
ones.
-/

namespace SqlStatement

/-- What becomes of a set when values are inserted one after the other: for each
of them, whether it was new, and the size of the set with it. -/
def insertions [BEq α] [Hashable α] (seen : Std.HashSet α) :
    List α → List (Bool × Nat)
  | [] => []
  | value :: values =>
      let next := seen.insert value
      (!seen.contains value, next.size) :: insertions next values

end SqlStatement
