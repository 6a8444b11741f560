import SqlStatement.Tree

/-!
# Equality of trees

Two trees are equal when they have the same form and their names, texts and
literals are equal.  Names are compared as `Identifier` and `Table` say, so that
quoting does not count, and floats as numbers, so that a tree that holds one
that is no number does not equal itself.
-/

namespace SqlStatement

mutual

def Expr.beq : Expr → Expr → Bool
  | .column a, .column b => a == b
  | .raw a, .raw b => a == b
  | .asterisk a, .asterisk b => a == b
  | .subSelect a, .subSelect b => Select.beq a b
  | .literal a, .literal b => a == b
  | .bind a, .bind b => a == b
  | .function a as, .function b bs => a == b && Expr.beqList as bs
  | _, _ => false

def Expr.beqList : List Expr → List Expr → Bool
  | [], [] => true
  | a :: as, b :: bs => Expr.beq a b && Expr.beqList as bs
  | _, _ => false

def Condition.beq : Condition → Condition → Bool
  | .comparison l op r, .comparison l' op' r' =>
      Expr.beq l l' && op == op' && Expr.beq r r'
  | .like l r, .like l' r' => Expr.beq l l' && Expr.beq r r'
  | .inList l as n, .inList l' as' n' =>
      Expr.beq l l' && Expr.beqList as as' && n == n'
  | .isNull e n, .isNull e' n' => Expr.beq e e' && n == n'
  | .nested c, .nested c' => Condition.beq c c'
  | .raw a, .raw b => a == b
  | .and l r, .and l' r' => Condition.beq l l' && Condition.beq r r'
  | .or l r, .or l' r' => Condition.beq l l' && Condition.beq r r'
  | .not c, .not c' => Condition.beq c c'
  | _, _ => false

def Condition.beqOption : Option Condition → Option Condition → Bool
  | none, none => true
  | some c, some c' => Condition.beq c c'
  | _, _ => false

def OrderField.beq : OrderField → OrderField → Bool
  | ⟨e, d, n⟩, ⟨e', d', n'⟩ => Expr.beq e e' && d == d' && n == n'

def OrderField.beqList : List OrderField → List OrderField → Bool
  | [], [] => true
  | f :: fs, f' :: fs' => OrderField.beq f f' && OrderField.beqList fs fs'
  | _, _ => false

def Join.beq : Join → Join → Bool
  | ⟨k, t, c⟩, ⟨k', t', c'⟩ => k == k' && t == t' && Condition.beq c c'

def Join.beqList : List Join → List Join → Bool
  | [], [] => true
  | j :: js, j' :: js' => Join.beq j j' && Join.beqList js js'
  | _, _ => false

def Select.beq : Select → Select → Bool
  | ⟨distinct, items, tables, joins, filter, order, limit, offset⟩,
    ⟨distinct', items', tables', joins', filter', order', limit', offset'⟩ =>
      distinct == distinct' && Expr.beqList items items' && tables == tables' &&
        Join.beqList joins joins' && Condition.beqOption filter filter' &&
        OrderField.beqList order order' && limit == limit' && offset == offset'

end

instance : BEq Expr := ⟨Expr.beq⟩

instance : BEq Condition := ⟨Condition.beq⟩

instance : BEq OrderField := ⟨OrderField.beq⟩

instance : BEq Join := ⟨Join.beq⟩

instance : BEq Select := ⟨Select.beq⟩

/-! ## The parts one by one -/

theorem Expr.beqList_eq_beq (as bs : List Expr) :
    Expr.beqList as bs = (as == bs) :=
  eq_beq_of_cons Expr.beqList (by simp [Expr.beqList])
    (by simp [Expr.beqList]) (by simp [Expr.beqList])
    (fun _ _ _ _ => by rw [Expr.beqList]; rfl) as bs

theorem OrderField.beqList_eq_beq (as bs : List OrderField) :
    OrderField.beqList as bs = (as == bs) :=
  eq_beq_of_cons OrderField.beqList (by simp [OrderField.beqList])
    (by simp [OrderField.beqList]) (by simp [OrderField.beqList])
    (fun _ _ _ _ => by rw [OrderField.beqList]; rfl) as bs

theorem Join.beqList_eq_beq (as bs : List Join) :
    Join.beqList as bs = (as == bs) :=
  eq_beq_of_cons Join.beqList (by simp [Join.beqList])
    (by simp [Join.beqList]) (by simp [Join.beqList])
    (fun _ _ _ _ => by rw [Join.beqList]; rfl) as bs

theorem Condition.beqOption_eq_beq (a? b? : Option Condition) :
    Condition.beqOption a? b? = (a? == b?) := by
  cases a? <;> cases b? <;> simp [Condition.beqOption]
  rfl

theorem Select.beq_eq (a b : Select) :
    (a == b) =
      (a.distinct == b.distinct && a.items == b.items && a.tables == b.tables &&
        a.joins == b.joins && a.filter == b.filter && a.order == b.order &&
        a.limit == b.limit && a.offset == b.offset) := by
  obtain ⟨⟩ := a
  obtain ⟨⟩ := b
  change Select.beq _ _ = _
  rw [Select.beq, Expr.beqList_eq_beq, Join.beqList_eq_beq,
    Condition.beqOption_eq_beq, OrderField.beqList_eq_beq]

end SqlStatement
