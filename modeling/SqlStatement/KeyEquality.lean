/-!
# Equality by a key

When two values are equal exactly if a key of theirs is, equality is an
equivalence, and hashing the key respects it.  Where some values do not even
equal themselves, a key can still decide between those that do, and equality is
at least symmetric and transitive.
-/

namespace SqlStatement

theorem equivBEq_of_key [BEq α] (key : α → β)
    (h : ∀ a b : α, (a == b) = true ↔ key a = key b) : EquivBEq α where
  rfl {a} := (h a a).mpr rfl
  symm {a b} hab := (h b a).mpr ((h a b).mp hab).symm
  trans {a b c} hab hbc := (h a c).mpr (((h a b).mp hab).trans ((h b c).mp hbc))

theorem lawfulHashable_of_key [BEq α] [Hashable α] [Hashable β] (key : α → β)
    (hash_key : ∀ a : α, hash a = hash (key a))
    (h : ∀ a b : α, (a == b) = true ↔ key a = key b) : LawfulHashable α where
  hash_eq a b hab := by
    rw [hash_key a, hash_key b, (h a b).mp hab]

/-- What `a` equals is what has its key, as far as both equal themselves. -/
def EqualByKey [BEq α] (key : α → β) (a : α) : Prop :=
  ∀ b : α, (a == b) = true ↔ (a == a) = true ∧ (b == b) = true ∧ key a = key b

theorem equalByKey_of_key [BEq α] {key : α → β}
    (h : ∀ a b : α, (a == b) = true ↔ key a = key b) (a : α) :
    EqualByKey key a := by
  intro b
  simp [h]

theorem equalByKey_id [BEq α] [LawfulBEq α] (a : α) : EqualByKey id a :=
  equalByKey_of_key (fun _ _ => beq_iff_eq) a

theorem partialEquivBEq_of_equalByKey [BEq α] (key : α → β)
    (h : ∀ a : α, EqualByKey key a) : PartialEquivBEq α where
  symm {a b} hab := by
    obtain ⟨ha, hb, hkey⟩ := (h a b).mp hab
    exact (h b a).mpr ⟨hb, ha, hkey.symm⟩
  trans {a b c} hab hbc := by
    obtain ⟨ha, _, hkey⟩ := (h a b).mp hab
    obtain ⟨_, hc, hkey'⟩ := (h b c).mp hbc
    exact (h a c).mpr ⟨ha, hc, hkey.trans hkey'⟩

/-- Of two things compared one after the other, each may be compared by its own
key. -/
theorem equalByKey_and {p p₁ p₂ k q q₁ q₂ l : Prop} (hp : p ↔ p₁ ∧ p₂ ∧ k)
    (hq : q ↔ q₁ ∧ q₂ ∧ l) : p ∧ q ↔ (p₁ ∧ q₁) ∧ (p₂ ∧ q₂) ∧ k ∧ l := by
  rw [hp, hq]
  constructor
  · rintro ⟨⟨hp₁, hp₂, hk⟩, hq₁, hq₂, hl⟩
    exact ⟨⟨hp₁, hq₁⟩, ⟨hp₂, hq₂⟩, hk, hl⟩
  · rintro ⟨⟨hp₁, hq₁⟩, ⟨hp₂, hq₂⟩, hk, hl⟩
    exact ⟨⟨hp₁, hp₂, hk⟩, hq₁, hq₂, hl⟩

theorem EqualByKey.list [BEq α] {key : α → β} {as : List α}
    (h : ∀ a ∈ as, EqualByKey key a) : EqualByKey (List.map key) as := by
  induction as with
  | nil =>
      intro bs
      cases bs <;> simp
  | cons a as ih =>
      rw [List.forall_mem_cons] at h
      intro bs
      cases bs with
      | nil => simp
      | cons b bs =>
          simp only [List.cons_beq_cons, Bool.and_eq_true, List.map_cons,
            List.cons.injEq]
          exact equalByKey_and (h.1 b) (ih h.2 bs)

theorem EqualByKey.option [BEq α] {key : α → β} {a? : Option α}
    (h : ∀ a ∈ a?, EqualByKey key a) : EqualByKey (Option.map key) a? := by
  intro b?
  cases a? with
  | none => cases b? <;> simp
  | some a =>
      cases b? with
      | none => simp
      | some b => simpa using h a rfl b

end SqlStatement
