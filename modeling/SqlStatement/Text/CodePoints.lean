/-!
# Sets of code points

A property of characters is given as a table of code point ranges, each by its
first and its last member.
-/

namespace SqlStatement.Text

abbrev CodePoints := List (Nat × Nat)

def CodePoints.contains (table : CodePoints) (c : Char) : Bool :=
  table.any fun (first, last) => first ≤ c.toNat && c.toNat ≤ last

end SqlStatement.Text
