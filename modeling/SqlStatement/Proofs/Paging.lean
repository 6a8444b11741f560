import SqlStatement.Proofs.Grammar
import Mathlib.Tactic

/-!
# The rows of a page

The dialects write a limit and an offset with different words, in different
orders, and not all of them can write one without the other.  Read as the
databases read them, their texts select the same rows: those after the skipped
ones, and of these no more than the limit.

A limit that stands in for none is as good as none, because it is greater than
the number of rows there can be.
-/

namespace SqlStatement

/-- Which rows of a result are kept: some are skipped and some, or all, are
taken. -/
structure Page where
  skip : Nat
  take? : Option Nat

namespace Page

def rows {α : Type u} (page : Page) (all : List α) : List α :=
  match page.take? with
  | none => all.drop page.skip
  | some count => (all.drop page.skip).take count

/-- The page of a limit and an offset that may be missing. -/
def asked (paging : Option UInt64 × Option UInt64) : Page where
  skip := paging.2.elim 0 UInt64.toNat
  take? := paging.1.map UInt64.toNat

end Page

/-! ## How pages are read -/

namespace Text

/-- The number that is written in decimal digits. -/
def numeral? (text : String) : Option Nat :=
  if !text.isEmpty && text.toList.all Char.isDigit then
    some (Nat.ofDigitChars 10 text.toList 0)
  else none

theorem numeral?_decimal (n : UInt64) :
    numeral? (Dialect.decimal n) = some n.toNat := by
  have htext : (Dialect.decimal n).toList = Nat.toDigits 10 n.toNat :=
    Nat.toList_repr
  have hne : (Dialect.decimal n).isEmpty = false := by
    rw [← Bool.not_eq_true, String.isEmpty_iff, ← String.toList_eq_nil_iff,
      htext]
    exact Nat.toDigits_ne_nil
  have hdigits : (Dialect.decimal n).toList.all Char.isDigit = true := by
    rw [htext, List.all_eq_true]
    exact fun c hc =>
      Nat.isDigit_of_mem_toDigits (by decide) (by decide) hc
  rw [numeral?, hne, hdigits, htext, Nat.ofDigitChars_ten_toDigits]
  rfl

end Text

namespace Lexeme

def isSpace : Lexeme → Bool
  | mark c => c == ' '
  | _ => false

/-- The lexemes without the spaces between them. -/
def unspaced (lexemes : List Lexeme) : List Lexeme :=
  lexemes.filter (!·.isSpace)

theorem unspaced_append (before after : List Lexeme) :
    unspaced (before ++ after) = unspaced before ++ unspaced after := by
  simp [unspaced]

theorem unspaced_phrase (words : List String) :
    unspaced (phrase words) = words.map word := by
  unfold phrase
  induction words with
  | nil => rfl
  | cons text words ih =>
      cases words with
      | nil => rfl
      | cons next words =>
          have hspaced : separated [mark ' ']
                ((text :: next :: words).map fun text => [word text]) =
              word text :: mark ' ' :: separated [mark ' ']
                ((next :: words).map fun text => [word text]) :=
            rfl
          rw [hspaced]
          exact congrArg (word text :: ·) ih

end Lexeme

namespace Page

open Lexeme Text

def readLimitOffset? : List Lexeme → Option Page
  | [word "LIMIT", word a] => do
      return ⟨0, some (← numeral? a)⟩
  | [word "OFFSET", word b] => do
      return ⟨← numeral? b, none⟩
  | [word "LIMIT", word a, word "OFFSET", word b] => do
      return ⟨← numeral? b, some (← numeral? a)⟩
  | _ => none

/-- With the offset first. -/
def readLimitComma? : List Lexeme → Option Page
  | [word "LIMIT", word a] => do
      return ⟨0, some (← numeral? a)⟩
  | [word "LIMIT", word b, mark ',', word a] => do
      return ⟨← numeral? b, some (← numeral? a)⟩
  | _ => none

def readOffsetFetch? : List Lexeme → Option Page
  | [word "FETCH", word "FIRST", word a, word "ROWS", word "ONLY"] => do
      return ⟨0, some (← numeral? a)⟩
  | [word "OFFSET", word b, word "ROWS"] => do
      return ⟨← numeral? b, none⟩
  | [word "OFFSET", word b, word "ROWS", word "FETCH", word "FIRST",
      word a, word "ROWS", word "ONLY"] => do
      return ⟨← numeral? b, some (← numeral? a)⟩
  | [word "OFFSET", word b, word "ROWS", word "FETCH", word "NEXT",
      word a, word "ROWS", word "ONLY"] => do
      return ⟨← numeral? b, some (← numeral? a)⟩
  | _ => none

end Page

namespace Dialect.Known

variable (known : Known)

/-- The page that the database of a dialect reads. -/
def readPage? (text : String) : Option Page :=
  (lexemes? known.dialect.quote text.toList).bind fun lexemes =>
    match known with
    | postgres | h2 => Page.readLimitOffset? (Lexeme.unspaced lexemes)
    | mysql => Page.readLimitComma? (Lexeme.unspaced lexemes)
    | ansi | sqlServer => Page.readOffsetFetch? (Lexeme.unspaced lexemes)

/-! ## What the dialects write -/

theorem readPage?_eq_asked {limit offset : Option UInt64} {text : String}
    (h : known.dialect.paging limit offset = some text) :
    known.readPage? text =
      some (Page.asked (known.normalPaging limit offset)) := by
  have hread : lexemes? known.dialect.quote text.toList =
      known.pagingLexemes limit offset := by
    rw [lexemes?_plain known.isDelimiter_quote text.toList
      (Text.not_isDelimiter_of_isPlain (known.isPlain_paging h)),
      ← known.pagingLexemes_eq, h, Option.map_some]
  have hcomma : ∀ n m : UInt64, Lexeme.unspaced
      (Lexeme.phrase ["LIMIT", decimal n] ++
        [.mark ',', .mark ' ', .word (decimal m)]) =
      [.word "LIMIT", .word (decimal n), .mark ',', .word (decimal m)] := by
    intro n m
    rw [Lexeme.unspaced_append, Lexeme.unspaced_phrase]
    rfl
  rw [readPage?, hread]
  rcases limit with _ | limit <;> rcases offset with _ | offset
  · simp [paging] at h
  all_goals
    cases known <;>
      simp only [pagingLexemes, limitLexemes, offsetLexemes,
        limitOffsetLexemes, Option.bind_some, Lexeme.unspaced_phrase, hcomma,
        List.map_cons, List.map_nil, Page.readLimitOffset?,
        Page.readLimitComma?, Page.readOffsetFetch?, Text.numeral?_decimal] <;>
      rfl

/-! ## Which rows that selects -/

/-- A limit of 2 ^ 64 - 1 takes all rows, and an offset of 0 skips none. -/
theorem rows_asked_normalPaging (limit offset : Option UInt64) {α : Type u}
    {all : List α} (hall : all.length < 2 ^ 64) :
    (Page.asked (known.normalPaging limit offset)).rows all =
      (Page.asked (limit, offset)).rows all := by
  cases limit with
  | some limit => cases known <;> cases offset <;> rfl
  | none =>
      cases offset with
      | none => cases known <;> rfl
      | some offset =>
          cases known with
          | mysql =>
              have hlength : (all.drop offset.toNat).length ≤
                  18446744073709551615 := by
                rw [List.length_drop]
                omega
              exact List.take_of_length_le hlength
          | _ => rfl

end Dialect.Known

/-- A paged statement is given a text, whatever the dialect, and the text is
read as a page: the rows after the offset, up to the limit. -/
theorem paging_selects_rows (known : Dialect.Known)
    (limit offset : Option UInt64) (h : limit ≠ none ∨ offset ≠ none)
    {α : Type u} (all : List α) (hall : all.length < 2 ^ 64) :
    ∃ text page, known.dialect.paging limit offset = some text ∧
      known.readPage? text = some page ∧
      page.rows all =
        match limit with
        | none => all.drop (offset.elim 0 UInt64.toNat)
        | some limit =>
            (all.drop (offset.elim 0 UInt64.toNat)).take limit.toNat := by
  obtain ⟨text, htext⟩ :
      ∃ text, known.dialect.paging limit offset = some text := by
    cases limit with
    | some limit => cases offset <;> exact ⟨_, rfl⟩
    | none =>
        cases offset with
        | some offset => exact ⟨_, rfl⟩
        | none => simp at h
  refine ⟨text, _, htext, known.readPage?_eq_asked htext, ?_⟩
  rw [known.rows_asked_normalPaging limit offset hall]
  cases limit <;> rfl

/-- An offset alone, where there are words only for both. -/
theorem offset_selects_rows :
    ((none : Option UInt64) ≠ none ∨ some (2 : UInt64) ≠ none) ∧
      ["a", "b", "c", "d"].length < 2 ^ 64 ∧
      ∃ text page, Dialect.mysql.paging none (some 2) = some text ∧
        Dialect.Known.mysql.readPage? text = some page ∧
        page.rows ["a", "b", "c", "d"] = ["c", "d"] := by
  have hpaged : (none : Option UInt64) ≠ none ∨ some (2 : UInt64) ≠ none :=
    .inr (Option.some_ne_none 2)
  have hlength : ["a", "b", "c", "d"].length < 2 ^ 64 := by decide
  exact ⟨hpaged, hlength, paging_selects_rows .mysql none (some 2) hpaged
    ["a", "b", "c", "d"] hlength⟩

end SqlStatement
