import SqlStatement.Tree

/-!
# ORDER BY fields

A field starts without a direction and without a place for the rows that have no
value; the last one that is given of each counts.
-/

namespace SqlStatement.OrderField

def of (expr : Expr) : OrderField :=
  ⟨expr, none, none⟩

def asc (field : OrderField) : OrderField :=
  { field with direction := some .asc }

def desc (field : OrderField) : OrderField :=
  { field with direction := some .desc }

def nullsFirst (field : OrderField) : OrderField :=
  { field with nulls := some .first }

def nullsLast (field : OrderField) : OrderField :=
  { field with nulls := some .last }

end SqlStatement.OrderField
