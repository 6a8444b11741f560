import SqlStatement.Distinct
import Mathlib.Data.Set.Card
import Mathlib.Tactic

/-!
# Sets of names up to equality

Identifiers, tables and columns are equal when the data that is hashed for them
is the same.  A hash set of them holds one value of each class of equal values
among those that were inserted, whichever of them comes first, and it does not
matter how the data is turned into a hash.
-/

namespace SqlStatement

variable {α : Type u}

/-! ## Classes of equal values -/

section Classes

variable [BEq α] [EquivBEq α]

variable (α) in
def equality : Setoid α where
  r a b := (a == b) = true
  iseqv := ⟨fun _ => BEq.rfl, BEq.symm, BEq.trans⟩

/-- What a value is up to equality. -/
def classOf (value : α) : Quotient (equality α) :=
  Quotient.mk (equality α) value

theorem classOf_eq_iff {a b : α} :
    classOf a = classOf b ↔ (a == b) = true :=
  Quotient.eq (r := equality α)

def classes (values : List α) : Set (Quotient (equality α)) :=
  classOf '' {value | value ∈ values}

theorem classOf_mem_classes_iff {value : α} {values : List α} :
    classOf value ∈ classes values ↔
      ∃ earlier ∈ values, (earlier == value) = true := by
  simp [classes, classOf_eq_iff]

theorem finite_classes (values : List α) : (classes values).Finite :=
  values.finite_toSet.image classOf

theorem classes_append_singleton (values : List α) (value : α) :
    classes (values ++ [value]) = insert (classOf value) (classes values) := by
  have hvalues : {v | v ∈ values ++ [value]} =
      insert value {v | v ∈ values} := by
    ext v
    simp [or_comm]
  rw [classes, hvalues, Set.image_insert_eq]
  rfl

end Classes

/-! ## Sets after insertions -/

section Insertions

variable [BEq α] [Hashable α]

def inserted (values : List α) : Std.HashSet α :=
  values.foldl Std.HashSet.insert ∅

theorem inserted_append_singleton (values : List α) (value : α) :
    inserted (values ++ [value]) = (inserted values).insert value := by
  simp [inserted]

theorem length_insertions (seen : Std.HashSet α) (values : List α) :
    (insertions seen values).length = values.length := by
  induction values generalizing seen with
  | nil => rfl
  | cons value values ih => simp [insertions, ih]

theorem insertions_append (seen : Std.HashSet α) (before after : List α) :
    insertions seen (before ++ after) =
      insertions seen before ++
        insertions (before.foldl Std.HashSet.insert seen) after := by
  induction before generalizing seen with
  | nil => rfl
  | cons value before ih => simp [insertions, ih]

theorem getElem?_insertions (before : List α) (value : α) (after : List α) :
    (insertions ∅ (before ++ value :: after))[before.length]? =
      some (!(inserted before).contains value,
        (inserted (before ++ [value])).size) := by
  rw [insertions_append, List.getElem?_append_right
    (by rw [length_insertions]), length_insertions, Nat.sub_self, insertions,
    inserted_append_singleton]
  rfl

variable [EquivBEq α] [LawfulHashable α]

theorem contains_inserted_iff (values : List α) (value : α) :
    (inserted values).contains value = true ↔
      ∃ earlier ∈ values, (earlier == value) = true := by
  induction values using List.reverseRecOn with
  | nil => simp [inserted]
  | append_singleton values last ih =>
      rw [inserted_append_singleton, Std.HashSet.contains_insert,
        Bool.or_eq_true, ih]
      simp [or_and_right, exists_or, or_comm]

theorem size_inserted (values : List α) :
    (inserted values).size = (classes values).ncard := by
  induction values using List.reverseRecOn with
  | nil => simp [inserted, classes]
  | append_singleton values last ih =>
      have hmem : last ∈ inserted values ↔ classOf last ∈ classes values := by
        rw [Std.HashSet.mem_iff_contains, contains_inserted_iff,
          classOf_mem_classes_iff]
      rw [inserted_append_singleton, Std.HashSet.size_insert,
        classes_append_singleton, ih]
      -- The last value adds a class exactly when the set grows.
      by_cases hseen : classOf last ∈ classes values
      · rw [if_pos (hmem.mpr hseen), Set.insert_eq_of_mem hseen]
      · rw [if_neg (hmem.not.mpr hseen),
          Set.ncard_insert_of_notMem hseen (finite_classes values)]

theorem contains_inserted_of_perm {values reordered : List α}
    (h : values.Perm reordered) (value : α) :
    (inserted values).contains value = (inserted reordered).contains value := by
  rw [Bool.eq_iff_iff, contains_inserted_iff, contains_inserted_iff]
  simp [h.mem_iff]

/-- A set holds no two equal values. -/
theorem nodup_classes_toList (set : Std.HashSet α) :
    (set.toList.map classOf).Nodup := by
  rw [List.Nodup, List.pairwise_map]
  refine Std.HashSet.distinct_toList.imp ?_
  intro a b hne heq
  rw [classOf_eq_iff.mp heq] at hne
  cases hne

theorem classOf_mem_toList_iff (set : Std.HashSet α) (value : α) :
    classOf value ∈ set.toList.map classOf ↔ set.contains value = true := by
  rw [← Std.HashSet.contains_toList, List.contains_iff_exists_mem_beq,
    List.mem_map]
  simp [classOf_eq_iff, BEq.comm]

theorem toList_inserted_perm {values reordered : List α}
    (h : values.Perm reordered) :
    ((inserted values).toList.map classOf).Perm
      ((inserted reordered).toList.map classOf) := by
  rw [List.perm_ext_iff_of_nodup (nodup_classes_toList _)
    (nodup_classes_toList _)]
  intro c
  obtain ⟨value, rfl⟩ := Quotient.exists_rep c
  change classOf value ∈ _ ↔ classOf value ∈ _
  rw [classOf_mem_toList_iff, classOf_mem_toList_iff,
    contains_inserted_of_perm h]

end Insertions

/-! ## Names and their keys -/

/-- The key of a value decides what the value equals, and with any hash that is
computed from the key a hash set keeps one value of each class. -/
structure KnownByKey {κ : Type} [BEq α] [EquivBEq α] (key : α → κ) : Prop where
  equivalence : Equivalence fun a b : α => (a == b) = true
  beq_iff : ∀ a b : α, (a == b) = true ↔ key a = key b
  /-- A value is new if none before it equals it, and with it the set has as
  many values as there are classes so far. -/
  reports : ∀ [Hashable α], (∀ a b : α, key a = key b → hash a = hash b) →
    ∀ (before : List α) (value : α) (after : List α), ∃ new size,
      (insertions ∅ (before ++ value :: after))[before.length]? =
        some (new, size) ∧
      (new = true ↔ ∀ earlier ∈ before, (earlier == value) = false) ∧
      size = (classes (before ++ [value])).ncard
  /-- The order of the values decides at most which of two equal ones the set
  holds. -/
  order : ∀ [Hashable α], (∀ a b : α, key a = key b → hash a = hash b) →
    ∀ values reordered : List α, values.Perm reordered →
      (∀ value, (inserted values).contains value =
        (inserted reordered).contains value) ∧
      ((inserted values).toList.map classOf).Perm
        ((inserted reordered).toList.map classOf)

theorem knownByKey_of_beq_iff {κ : Type} [BEq α] [EquivBEq α] {key : α → κ}
    (h : ∀ a b : α, (a == b) = true ↔ key a = key b) : KnownByKey key := by
  -- The hash sees nothing but the key, and so it respects equality.
  have hlawful : ∀ [Hashable α],
      (∀ a b : α, key a = key b → hash a = hash b) → LawfulHashable α :=
    fun hhash => ⟨fun a b heq => hhash a b ((h a b).mp heq)⟩
  constructor
  case equivalence => exact (equality α).iseqv
  case beq_iff => exact h
  case reports =>
    intro _ hhash before value after
    have := hlawful hhash
    refine ⟨_, _, getElem?_insertions before value after, ?_,
      size_inserted _⟩
    rw [Bool.not_eq_true', ← Bool.not_eq_true, contains_inserted_iff]
    simp
  case order =>
    intro _ hhash values reordered hperm
    have := hlawful hhash
    exact ⟨contains_inserted_of_perm hperm, toList_inserted_perm hperm⟩

/-- Identifiers are known by their names, tables by whether they have an alias
and by the name that refers to them, and columns by their names and by what
their tables are known by.  That is the data which is hashed for them. -/
theorem names_known_by_hashed_data :
    KnownByKey (fun id : Identifier => id.name) ∧
    KnownByKey (fun table : Table =>
      (table.aliasName?.isSome, table.reference.name)) ∧
    KnownByKey (fun column : Column =>
      (column.name.name, column.table.aliasName?.isSome,
        column.table.reference.name)) ∧
    (∀ id : Identifier, hash id = hash id.name) ∧
    (∀ table : Table,
      hash table = hash (table.aliasName?.isSome, table.reference.name)) ∧
    ∀ column : Column,
      hash column = hash (column.name.name, column.table.aliasName?.isSome,
        column.table.reference.name) :=
  ⟨knownByKey_of_beq_iff Identifier.beq_iff_hashKey,
    knownByKey_of_beq_iff Table.beq_iff_hashKey,
    knownByKey_of_beq_iff Column.beq_iff_hashKey,
    fun _ => rfl, fun _ => rfl, fun _ => rfl⟩

namespace Table

def partner : Table :=
  ⟨⟨"partner", false, by decide⟩, none⟩

def suppliers : Table :=
  ⟨⟨"suppliers", false, by decide⟩, some ⟨"partner", false, by decide⟩⟩

def carriers : Table :=
  ⟨⟨"carriers", true, by decide⟩, some ⟨"partner", true, by decide⟩⟩

end Table

/-- The second table under the alias is known, whatever it is called, but the
alias is not known from a table of that name. -/
theorem same_alias_not_new :
    ∃ size,
      (insertions ∅ [Table.partner, .suppliers, .carriers])[1]? =
        some (true, size) ∧
      (insertions ∅ [Table.partner, .suppliers, .carriers])[2]? =
        some (false, size) := by
  obtain ⟨_, htables, _, _, hhash, _⟩ := names_known_by_hashed_data
  have hreports := htables.reports fun a b hkey => by
    rw [hhash, hhash, hkey]
  obtain ⟨new, size, hsecond, hnew, hsize⟩ :=
    hreports [Table.partner] .suppliers [.carriers]
  obtain ⟨new', size', hthird, hnew', hsize'⟩ :=
    hreports [Table.partner, .suppliers] .carriers []
  have hone : new = true := hnew.mpr (by decide)
  have htwo : new' = false := by
    rw [← Bool.not_eq_true, hnew']
    decide
  have hknown : classOf Table.carriers ∈
      classes [Table.partner, .suppliers] := by
    rw [classOf_mem_classes_iff]
    exact ⟨.suppliers, by simp, rfl⟩
  have hsame : size' = size := by
    rw [hsize', classes_append_singleton, Set.insert_eq_of_mem hknown, hsize]
    rfl
  subst hone htwo hsame
  exact ⟨size', hsecond, hthird⟩

end SqlStatement
