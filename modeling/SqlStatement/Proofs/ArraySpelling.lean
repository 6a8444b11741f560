import SqlStatement.Dialect.Known
import Mathlib.Tactic

/-!
# How array types are spelled

Arrays of arrays are made level by level, with or without a dialect.  A level
that was made without one is spelled as PostgreSQL spells arrays, a level that
a dialect made is spelled in the notation of the dialect, and the levels are
spelled one after the other.  In PostgreSQL all levels look alike therefore.
In H2 they do only if all of them were made by the dialect.
-/

namespace SqlStatement

/-- How a level of arrays was put around a type. -/
inductive ArrayLevel where
  | withoutDialect
  | byDialect
deriving DecidableEq

namespace ArrayLevel

/-- What a level adds to the spelling of a type, in a dialect that adds
`own`. -/
def suffix (own : String) : ArrayLevel → String
  | withoutDialect => "[]"
  | byDialect => own

/-- The levels are given from the inside to the outside. -/
def spelling (own : String) (levels : List ArrayLevel) : String :=
  String.join (levels.map (suffix own))

/-- As many levels, all of them spelled as the dialect does it. -/
def uniform (own : String) (count : ℕ) : String :=
  String.join (List.replicate count own)

theorem spelling_append (own : String) (inner outer : List ArrayLevel) :
    spelling own (inner ++ outer) =
      spelling own inner ++ spelling own outer := by
  simp [spelling]

theorem spelling_eq_uniform {own : String} {levels : List ArrayLevel}
    (h : ∀ level ∈ levels, level.suffix own = own) :
    spelling own levels = uniform own levels.length := by
  have hmap : levels.map (suffix own) = List.replicate levels.length own := by
    rw [List.eq_replicate_iff]
    simpa using h
  rw [spelling, hmap, uniform]

/-- The notation of PostgreSQL is shorter by four characters. -/
theorem length_spelling_h2 (levels : List ArrayLevel) :
    (spelling " ARRAY" levels).length + 4 * levels.count withoutDialect =
      6 * levels.length := by
  induction levels with
  | nil => rfl
  | cons level levels ih =>
      have hcons : (spelling " ARRAY" (level :: levels)).length =
          (level.suffix " ARRAY").length +
            (spelling " ARRAY" levels).length := by
        simp [spelling]
      rw [hcons, List.length_cons]
      cases level with
      | withoutDialect =>
          have hlength : (suffix " ARRAY" withoutDialect).length = 2 := by
            decide
          rw [List.count_cons_self]
          omega
      | byDialect =>
          have hlength : (suffix " ARRAY" byDialect).length = 6 := by decide
          rw [List.count_cons_of_ne (by decide)]
          omega

theorem length_uniform (own : String) (count : ℕ) :
    (uniform own count).length = count * own.length := by
  induction count with
  | zero => simp [uniform]
  | succ count ih =>
      have hsucc : uniform own (count + 1) = own ++ uniform own count := by
        simp [uniform, List.replicate_succ]
      rw [hsucc, String.length_append, ih, Nat.succ_mul, Nat.add_comm]

theorem spelling_h2_eq_uniform_iff (levels : List ArrayLevel) :
    spelling " ARRAY" levels = uniform " ARRAY" levels.length ↔
      withoutDialect ∉ levels := by
  constructor
  · intro heq
    have hlevels := length_spelling_h2 levels
    have hsuffix : " ARRAY".length = 6 := by decide
    rw [heq, length_uniform, hsuffix] at hlevels
    exact List.count_eq_zero.mp (by omega)
  · intro hnone
    apply spelling_eq_uniform
    intro level hmem
    cases level with
    | withoutDialect => exact absurd hmem hnone
    | byDialect => rfl

end ArrayLevel

namespace Dialect

def addLevel (dialect : Dialect) (element : DataType) :
    ArrayLevel → Except Error DataType
  | .withoutDialect => .ok (.array element)
  | .byDialect => dialect.arrayType element

/-- Puts levels of arrays around a type, the innermost one first. -/
def addLevels (dialect : Dialect) (base : DataType)
    (levels : List ArrayLevel) : Except Error DataType :=
  levels.foldlM dialect.addLevel base

namespace Known

/-- What stands after an element type, in the dialects that have arrays. -/
def arraySuffix? : Known → Option String
  | postgres => some "[]"
  | h2 => some " ARRAY"
  | ansi | mysql | sqlServer => none

theorem supportsArrays_eq (known : Known) :
    known.dialect.supportsArrays = known.arraySuffix?.isSome := by
  cases known <;> rfl

/-- What a dialect says of itself agrees with what it does. -/
theorem supportsArrays_eq_isOk (known : Known) (element : DataType) :
    known.dialect.supportsArrays = (known.dialect.arrayType element).isOk := by
  cases known <;> rfl

theorem arrayType_eq_error {known : Known}
    (h : known.dialect.supportsArrays = false) (element : DataType) :
    known.dialect.arrayType element =
      .error (.unsupported (.arrays known.name element)) := by
  cases known with
  | ansi | mysql | sqlServer => rfl
  | postgres | h2 => cases h

variable {known : Known} {own : String}

theorem exists_addLevel (h : known.arraySuffix? = some own)
    (element : DataType) (level : ArrayLevel) :
    ∃ type, known.dialect.addLevel element level = .ok type ∧
      type.sql = element.sql ++ level.suffix own := by
  cases level with
  | withoutDialect => exact ⟨.array element, rfl, rfl⟩
  | byDialect =>
      cases known with
      | postgres =>
          cases h
          exact ⟨.array element, rfl, rfl⟩
      | h2 =>
          cases h
          exact ⟨.custom (element.sql ++ " ARRAY"), rfl, rfl⟩
      | ansi | mysql | sqlServer => cases h

theorem exists_addLevels (h : known.arraySuffix? = some own)
    (base : DataType) (levels : List ArrayLevel) :
    ∃ type, known.dialect.addLevels base levels = .ok type ∧
      type.sql = base.sql ++ ArrayLevel.spelling own levels := by
  induction levels generalizing base with
  | nil => exact ⟨base, rfl, String.append_empty.symm⟩
  | cons level levels ih =>
      obtain ⟨element, hlevel, helement⟩ := exists_addLevel h base level
      obtain ⟨type, hlevels, htype⟩ := ih element
      refine ⟨type, ?_, ?_⟩
      · rw [addLevels, List.foldlM_cons, hlevel]
        exact hlevels
      · rw [htype, helement, String.append_assoc]
        simp [ArrayLevel.spelling]

theorem spelling_eq_uniform_iff (h : known.arraySuffix? = some own)
    (levels : List ArrayLevel) :
    ArrayLevel.spelling own levels =
        ArrayLevel.uniform own levels.length ↔
      known = .postgres ∨ .withoutDialect ∉ levels := by
  cases known with
  | postgres =>
      cases h
      have huniform : ArrayLevel.spelling "[]" levels =
          ArrayLevel.uniform "[]" levels.length := by
        apply ArrayLevel.spelling_eq_uniform
        intro level _
        cases level <;> rfl
      simp [huniform]
  | h2 =>
      cases h
      simpa using ArrayLevel.spelling_h2_eq_uniform_iff levels
  | ansi | mysql | sqlServer => cases h

end Known

end Dialect

/-- A dialect without arrays makes no array type at all.  One that has them
makes one of every type, and spells it as the element with its own notation
after it.  The levels of arrays in the element keep the notation in which they
were made, so that all levels of the type are spelled in the notation of the
dialect only in PostgreSQL, or if no level was made without the dialect. -/
theorem array_levels_spelled_as_made (known : Dialect.Known) :
    (known.dialect.supportsArrays = false → ∀ element : DataType,
      known.dialect.arrayType element =
        .error (.unsupported (.arrays known.name element))) ∧
    (known.dialect.supportsArrays = true → ∃ own,
      known.arraySuffix? = some own ∧
      ∀ (base : DataType) (levels : List ArrayLevel), ∃ element type,
        known.dialect.addLevels base levels = .ok element ∧
        known.dialect.arrayType element = .ok type ∧
        type.sql = base.sql ++ ArrayLevel.spelling own levels ++ own ∧
        (type.sql = base.sql ++ ArrayLevel.uniform own (levels.length + 1) ↔
          known = .postgres ∨ .withoutDialect ∉ levels)) := by
  refine ⟨Dialect.Known.arrayType_eq_error, fun hsupports => ?_⟩
  rw [known.supportsArrays_eq] at hsupports
  obtain ⟨own, hown⟩ := Option.isSome_iff_exists.mp hsupports
  refine ⟨own, hown, fun base levels => ?_⟩
  obtain ⟨element, hlevels, helement⟩ :=
    Dialect.Known.exists_addLevels hown base levels
  obtain ⟨type, htype, hsql⟩ :=
    Dialect.Known.exists_addLevel hown element .byDialect
  have hspelled :
      type.sql = base.sql ++ ArrayLevel.spelling own levels ++ own := by
    rw [hsql, helement]
    rfl
  refine ⟨element, type, hlevels, htype, hspelled, ?_⟩
  -- The dialect made the outermost level, which is one of them all.
  have hlast : ArrayLevel.spelling own (levels ++ [.byDialect]) =
      ArrayLevel.spelling own levels ++ own := by
    rw [ArrayLevel.spelling_append]
    simp [ArrayLevel.spelling, ArrayLevel.suffix]
  have huniform :=
    Dialect.Known.spelling_eq_uniform_iff hown (levels ++ [.byDialect])
  rw [hspelled, String.append_assoc, ← hlast]
  simpa using huniform

theorem h2_levels_spelled_alike :
    Dialect.h2.supportsArrays = true ∧ ∃ element type,
      Dialect.h2.addLevels .text [.byDialect, .byDialect] = .ok element ∧
      Dialect.h2.arrayType element = .ok type ∧
      type.sql = "TEXT ARRAY ARRAY ARRAY" := by
  have hsupports : Dialect.h2.supportsArrays = true := rfl
  obtain ⟨own, hown, hspelled⟩ :=
    (array_levels_spelled_as_made .h2).2 hsupports
  cases hown
  obtain ⟨element, type, hlevels, htype, hsql, _⟩ :=
    hspelled .text [.byDialect, .byDialect]
  exact ⟨hsupports, element, type, hlevels, htype, hsql⟩

/-- The element keeps the brackets, which H2 does not know. -/
theorem h2_mixes_notations :
    Dialect.h2.addLevels .integer [.withoutDialect] =
        .ok (.array .integer) ∧
      Dialect.h2.arrayType (.array .integer) =
        .ok (.custom "INTEGER[] ARRAY") ∧
      (DataType.custom "INTEGER[] ARRAY").sql ≠
        DataType.integer.sql ++ ArrayLevel.uniform " ARRAY" 2 := by
  refine ⟨rfl, rfl, ?_⟩
  decide

end SqlStatement
