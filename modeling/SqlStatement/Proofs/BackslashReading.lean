import SqlStatement.Dialect.Known
import SqlStatement.Proofs.Rendering
import Mathlib.Tactic

/-!
# Strings that are read with backslashes

A string is written between apostrophes, and an apostrophe in it twice,
whatever the dialect.  MySQL has a second way to write characters: a backslash
and the character after it stand for one character.  Two of these pairs are
left alone, `\%` and `\_`, which mean something to LIKE only.

A reader of this kind gets back the strings in which every backslash stands
right before a character that its backslash is left with, and no others; in
particular the strings without backslashes.  That no others are read back is a
matter of lengths: a pair that stands for one character is shorter when it was
read than when it was written, and nothing that is read gets longer.
-/

namespace SqlStatement

namespace Text.Backslashed

/-- What stands before the closing quote, and the text after it.  `escaped`
tells what a backslash and the character after it stand for. -/
def readBody? (escaped : Char → List Char) :
    List Char → Option (List Char × List Char)
  | [] => none
  | '\'' :: '\'' :: text =>
      (readBody? escaped text).map fun (value, rest) => ('\'' :: value, rest)
  | '\'' :: text => some ([], text)
  | '\\' :: c :: text =>
      (readBody? escaped text).map fun (value, rest) =>
        (escaped c ++ value, rest)
  | ['\\'] => none
  | c :: text =>
      (readBody? escaped text).map fun (value, rest) => (c :: value, rest)

/-- The string at the beginning of a text, and what follows it. -/
def read? (escaped : Char → List Char) :
    List Char → Option (List Char × List Char)
  | '\'' :: text => readBody? escaped text
  | _ => none

/-- A backslash pair is a backslash, a backslash and an apostrophe an
apostrophe.  All others stand for one character, which is no backslash, or are
left alone. -/
structure Escapes (escaped : Char → List Char) : Prop where
  backslash : escaped '\\' = ['\\']
  apostrophe : escaped '\'' = ['\'']
  other : ∀ c, escaped c = ['\\', c] ∨
    ∃ d, escaped c = [d] ∧ (d = '\\' → c = '\\')

/-- Each backslash stands right before a character that it is left with. -/
def Inert (escaped : Char → List Char) : List Char → Prop
  | [] => True
  | '\\' :: c :: chars => escaped c = ['\\', c] ∧ Inert escaped chars
  | ['\\'] => False
  | _ :: chars => Inert escaped chars

/-- The pairs of MySQL. -/
def ofMySql : Char → List Char
  | '0' => ['\x00']
  | 'b' => ['\x08']
  | 'n' => ['\n']
  | 'r' => ['\r']
  | 't' => ['\t']
  | 'Z' => ['\x1a']
  | '%' => ['\\', '%']
  | '_' => ['\\', '_']
  | c => [c]

theorem escapes_ofMySql : Escapes ofMySql where
  backslash := rfl
  apostrophe := rfl
  other c := by
    unfold ofMySql
    split
    all_goals simp

variable {escaped : Char → List Char}

/-- The last case of `Inert`. -/
theorem ne_backslash_of_no_pair {c : Char} {chars : List Char}
    (hpair : ∀ d rest, c = '\\' → chars = d :: rest → False)
    (hlone : c = '\\' → chars = [] → False) : c ≠ '\\' := by
  intro hc
  cases chars with
  | nil => exact hlone hc rfl
  | cons d rest => exact hpair d rest hc rfl

theorem inert_of_not_mem {chars : List Char} (h : '\\' ∉ chars) :
    Inert escaped chars := by
  induction chars with
  | nil => trivial
  | cons c chars ih =>
      rw [List.mem_cons, not_or] at h
      rw [Inert]
      · exact ih h.2
      · intro d rest hc _
        exact h.1 hc.symm
      · intro hc _
        exact h.1 hc.symm

/-! ## One step of the reader -/

theorem readBody?_apostrophes (text : List Char) :
    readBody? escaped ('\'' :: '\'' :: text) =
      (readBody? escaped text).map fun (value, rest) =>
        ('\'' :: value, rest) :=
  rfl

theorem readBody?_pair (c : Char) (text : List Char) :
    readBody? escaped ('\\' :: c :: text) =
      (readBody? escaped text).map fun (value, rest) =>
        (escaped c ++ value, rest) := by
  rw [readBody?]

theorem readBody?_plain {c : Char} (hapostrophe : c ≠ '\'')
    (hbackslash : c ≠ '\\') (text : List Char) :
    readBody? escaped (c :: text) =
      (readBody? escaped text).map fun (value, rest) => (c :: value, rest) := by
  rw [readBody?]
  all_goals simp_all

theorem readBody?_end {rest : List Char} (hrest : rest.head? ≠ some '\'') :
    readBody? escaped ('\'' :: rest) = some ([], rest) := by
  rw [readBody?]
  rintro text rfl
  exact hrest rfl

/-! ## One step through a doubled string -/

theorem readBody?_double_cons {c : Char} (hbackslash : c ≠ '\\')
    (chars text : List Char) :
    readBody? escaped (Quoted.double '\'' (c :: chars) ++ text) =
      (readBody? escaped (Quoted.double '\'' chars ++ text)).map
        fun (value, rest) => (c :: value, rest) := by
  by_cases hapostrophe : c = '\''
  · subst hapostrophe
    rw [Quoted.double_cons_self, List.cons_append, List.cons_append,
      readBody?_apostrophes]
  · rw [Quoted.double_cons_of_ne hapostrophe, List.cons_append,
      readBody?_plain hapostrophe hbackslash]

theorem readBody?_double_pair {c : Char} (hapostrophe : c ≠ '\'')
    (chars text : List Char) :
    readBody? escaped (Quoted.double '\'' ('\\' :: c :: chars) ++ text) =
      (readBody? escaped (Quoted.double '\'' chars ++ text)).map
        fun (value, rest) => (escaped c ++ value, rest) := by
  rw [Quoted.double_cons_of_ne (by decide),
    Quoted.double_cons_of_ne hapostrophe, List.cons_append, List.cons_append,
    readBody?_pair]

/-! ## Strings that are read back -/

theorem readBody?_double (hescaped : Escapes escaped) {chars rest : List Char}
    (hrest : rest.head? ≠ some '\'') (hchars : Inert escaped chars) :
    readBody? escaped (Quoted.double '\'' chars ++ '\'' :: rest) =
      some (chars, rest) := by
  fun_induction Inert escaped chars with
  | case1 => exact readBody?_end hrest
  | case2 c chars ih =>
      obtain ⟨hkept, hchars⟩ := hchars
      have hapostrophe : c ≠ '\'' := by
        rintro rfl
        simp [hescaped.apostrophe] at hkept
      rw [readBody?_double_pair hapostrophe, ih hchars, hkept]
      rfl
  | case3 => exact hchars.elim
  | case4 c chars hpair hlone ih =>
      have hbackslash := ne_backslash_of_no_pair hpair hlone
      rw [readBody?_double_cons hbackslash, ih hchars]
      rfl

/-! ## Lengths

What is read was written with one character or two, an apostrophe with two.
So a text counted twice has room for what is read from it counted twice, and
for its own apostrophes. -/

theorem Escapes.length_le (hescaped : Escapes escaped) (c : Char) :
    2 * (escaped c).length + [c].count '\'' ≤ 4 := by
  by_cases hc : c = '\''
  · subst hc
    simp [hescaped.apostrophe]
  · rcases hescaped.other c with hkept | ⟨d, hone, _⟩
    · simp [hkept, hc]
    · simp [hone, hc]

theorem two_mul_length_le (hescaped : Escapes escaped)
    {text value rest : List Char}
    (h : readBody? escaped text = some (value, rest)) :
    2 * value.length + 2 * rest.length + text.count '\'' + 1 ≤
      2 * text.length + rest.count '\'' := by
  fun_induction readBody? escaped text generalizing value with
  | case1 => cases h
  | case2 text ih =>
      obtain ⟨⟨value, _⟩, hread, heq⟩ := Option.map_eq_some_iff.mp h
      obtain ⟨rfl, rfl⟩ := Prod.mk.inj heq
      have hle := ih hread
      simp only [List.length_cons, List.count_cons_self]
      omega
  | case3 text _ =>
      obtain ⟨rfl, rfl⟩ := Prod.mk.inj (Option.some.inj h)
      simp only [List.length_cons, List.length_nil, List.count_cons_self]
      omega
  | case4 c text ih =>
      obtain ⟨⟨value, _⟩, hread, heq⟩ := Option.map_eq_some_iff.mp h
      obtain ⟨rfl, rfl⟩ := Prod.mk.inj heq
      have hle := ih hread
      have hpair := hescaped.length_le c
      have hcount : List.count '\'' ('\\' :: c :: text) =
          [c].count '\'' + text.count '\'' := by
        rw [List.count_cons_of_ne (by decide), ← List.singleton_append,
          List.count_append]
      simp only [List.length_append, List.length_cons, hcount]
      omega
  | case5 => cases h
  | case6 c text _ hapostrophe _ _ ih =>
      obtain ⟨⟨value, _⟩, hread, heq⟩ := Option.map_eq_some_iff.mp h
      obtain ⟨rfl, rfl⟩ := Prod.mk.inj heq
      have hle := ih hread
      have hcount : List.count '\'' (c :: text) = text.count '\'' :=
        List.count_cons_of_ne hapostrophe
      simp only [List.length_cons, hcount]
      omega

theorem length_double (chars : List Char) :
    (Quoted.double '\'' chars).length = chars.length + chars.count '\'' := by
  induction chars with
  | nil => rfl
  | cons c chars ih =>
      by_cases hc : c = '\''
      · subst hc
        rw [Quoted.double_cons_self, List.count_cons_self]
        simp only [List.length_cons, ih]
        omega
      · rw [Quoted.double_cons_of_ne hc, List.count_cons_of_ne hc]
        simp only [List.length_cons, ih]
        omega

theorem count_double (chars : List Char) :
    (Quoted.double '\'' chars).count '\'' = 2 * chars.count '\'' := by
  induction chars with
  | nil => rfl
  | cons c chars ih =>
      by_cases hc : c = '\''
      · subst hc
        rw [Quoted.double_cons_self]
        simp only [List.count_cons_self, ih]
        omega
      · rw [Quoted.double_cons_of_ne hc, List.count_cons_of_ne hc,
          List.count_cons_of_ne hc, ih]

theorem length_le_of_read (hescaped : Escapes escaped)
    {chars value rest : List Char}
    (h : readBody? escaped (Quoted.double '\'' chars ++ '\'' :: rest) =
      some (value, rest)) :
    value.length ≤ chars.length := by
  have hle := two_mul_length_le hescaped h
  simp only [List.length_append, List.length_cons, List.count_append,
    List.count_cons_self, length_double, count_double] at hle
  omega

/-! ## Strings that are not read back -/

theorem inert_of_read (hescaped : Escapes escaped) {chars rest : List Char}
    (h : readBody? escaped (Quoted.double '\'' chars ++ '\'' :: rest) =
      some (chars, rest)) :
    Inert escaped chars := by
  fun_induction Inert escaped chars with
  | case1 => trivial
  | case2 c chars ih =>
      have hapostrophe : c ≠ '\'' := by
        rintro rfl
        simp [Quoted.double, readBody?_pair, hescaped.apostrophe] at h
      rw [readBody?_double_pair hapostrophe] at h
      obtain ⟨⟨value, _⟩, hread, heq⟩ := Option.map_eq_some_iff.mp h
      obtain ⟨hvalue, rfl⟩ := Prod.mk.inj heq
      rcases hescaped.other c with hkept | ⟨d, hone, _⟩
      · obtain rfl : value = chars := by simpa [hkept] using hvalue
        exact ⟨hkept, ih hread⟩
      · -- What is left would have to be read as something longer.
        obtain ⟨rfl, rfl⟩ : d = '\\' ∧ value = c :: chars := by
          simpa [hone] using hvalue
        have hle := length_le_of_read hescaped hread
        rw [List.length_cons] at hle
        omega
  | case3 =>
      simp [Quoted.double, readBody?_pair, hescaped.apostrophe] at h
  | case4 c chars hpair hlone ih =>
      have hbackslash := ne_backslash_of_no_pair hpair hlone
      rw [readBody?_double_cons hbackslash] at h
      obtain ⟨⟨value, _⟩, hread, heq⟩ := Option.map_eq_some_iff.mp h
      obtain ⟨hvalue, rfl⟩ := Prod.mk.inj heq
      obtain ⟨_, rfl⟩ := List.cons_eq_cons.mp hvalue
      exact ih hread

theorem readBody?_double_iff (hescaped : Escapes escaped)
    {chars rest : List Char} (hrest : rest.head? ≠ some '\'') :
    readBody? escaped (Quoted.double '\'' chars ++ '\'' :: rest) =
        some (chars, rest) ↔
      Inert escaped chars :=
  ⟨inert_of_read hescaped, readBody?_double hescaped hrest⟩

end Text.Backslashed

open Text.Backslashed

theorem Expr.renderExpr_string (style : Style) (value : String) :
    style.renderExpr (.literal (.string value)) =
      .ok ("'" ++ Text.replaceChar '\'' "''" value ++ "'") := by
  rw [style.renderExpr_eq]
  · simp [Style.expr, Expr.pieces, Style.piece, Literal.sql]
  · simp [Expr.subSelects, Expr.scope, Expr.subSelect?]

/-- A string that is written for MySQL ends where it is read to end and is
read as itself when it has no backslash in it, and, of the strings that have
one, only when each of them is left alone. -/
theorem string_read_back_iff (escaped : Char → List Char)
    (hescaped : Escapes escaped) (quoting : Quoting) (value : String)
    (rest : List Char) (hrest : rest.head? ≠ some '\'') :
    ∃ text, (⟨Dialect.mysql, quoting⟩ : Style).renderExpr
          (.literal (.string value)) = .ok text ∧
      ('\\' ∉ value.toList →
        read? escaped (text.toList ++ rest) = some (value.toList, rest)) ∧
      (read? escaped (text.toList ++ rest) = some (value.toList, rest) ↔
        Inert escaped value.toList) := by
  have hiff : read? escaped
        (("'" ++ Text.replaceChar '\'' "''" value ++ "'").toList ++ rest) =
          some (value.toList, rest) ↔
      Inert escaped value.toList := by
    rw [← readBody?_double_iff hescaped hrest]
    simp [Text.Quoted.toList_replaceChar_apostrophe, read?]
  refine ⟨_, Expr.renderExpr_string _ value, ?_, hiff⟩
  intro hbackslash
  exact hiff.mpr (inert_of_not_mem hbackslash)

/-- An apostrophe and a backslash that is left alone, before an alias. -/
theorem discount_read_back :
    Escapes ofMySql ∧ " AS d".toList.head? ≠ some '\'' ∧
      ∃ text, (⟨Dialect.mysql, .always⟩ : Style).renderExpr
            (.literal (.string "it's 10\\%")) = .ok text ∧
        read? ofMySql (text.toList ++ " AS d".toList) =
          some ("it's 10\\%".toList, " AS d".toList) := by
  have hrest : " AS d".toList.head? ≠ some '\'' := by decide
  obtain ⟨text, hrendered, _, hread⟩ := string_read_back_iff ofMySql
    escapes_ofMySql .always "it's 10\\%" " AS d".toList hrest
  refine ⟨escapes_ofMySql, hrest, text, hrendered, hread.mpr ?_⟩
  simp [Inert, ofMySql]

/-- A backslash before an apostrophe: the string ends after the apostrophe, and
the rest of it is read as what follows. -/
theorem backslash_lets_string_out :
    (⟨Dialect.mysql, .asDeclared⟩ : Style).renderExpr
          (.literal (.string "\\' OR 1=1 -- ")) =
        .ok "'\\'' OR 1=1 -- '" ∧
      read? ofMySql "'\\'' OR 1=1 -- '".toList =
        some (['\''], " OR 1=1 -- '".toList) ∧
      read? ofMySql "'\\'' OR 1=1 -- '".toList ≠
        some ("\\' OR 1=1 -- ".toList, []) := by
  refine ⟨Expr.renderExpr_string _ _, ?_, ?_⟩
  · decide
  · decide

end SqlStatement
