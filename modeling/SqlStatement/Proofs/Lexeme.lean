import SqlStatement.Text.Quoted
import Mathlib.Tactic

/-!
# Lexemes

A statement is split into words, quoted names, strings and single marks.  A
word is a longest run of ASCII letters, digits and underscores.  A name stands
between two quotes and a string between two apostrophes, and inside of them
the delimiter is written twice; nothing else has a special meaning there.

A reader of lexemes goes through the text once.  What it has read so far can
be continued by some characters only, and a mark continues nothing: whatever
stands on one side of a mark, the lexemes of a text are those before it and
those after it.
-/

namespace SqlStatement

inductive Lexeme where
  | word (text : String)
  | name (text : String)
  | string (text : String)
  | mark (char : Char)
deriving DecidableEq

namespace Lexeme

def isQuoted : Lexeme → Bool
  | name _ | string _ => true
  | word _ | mark _ => false

/-- The lexeme without what is written between its delimiters. -/
def shape : Lexeme → Lexeme
  | name _ => name ""
  | string _ => string ""
  | word text => word text
  | mark char => mark char

end Lexeme

namespace Text

def isWordChar (c : Char) : Bool :=
  c.isAlphanum || c == '_'

def isWord (text : String) : Bool :=
  !text.toList.isEmpty && text.toList.all isWordChar

/-- The quotes of the dialects that come with the library, and the
apostrophe. -/
def isDelimiter (c : Char) : Bool :=
  c == '"' || c == '\x60' || c == '\''

/-- A mark is a lexeme on its own. -/
def isMark (c : Char) : Bool :=
  !isWordChar c && !isDelimiter c

end Text

/-! ## The reader -/

/-- What stands between delimiters. -/
inductive Enclosed where
  | name
  | string

def Enclosed.delimiter (quote : Char) : Enclosed → Char
  | name => quote
  | string => '\''

def Enclosed.lexeme (text : List Char) : Enclosed → Lexeme
  | name => .name (String.ofList text)
  | string => .string (String.ofList text)

/-- What was read of the current lexeme.  Something enclosed is complete after
a delimiter, unless another one follows. -/
inductive Current where
  | start
  | mark (char : Char)
  | word (chars : List Char)
  | inside (kind : Enclosed) (chars : List Char)
  | complete (kind : Enclosed) (chars : List Char)

namespace Current

def begin (quote c : Char) : Current :=
  if c = quote then inside .name []
  else if c = '\'' then inside .string []
  else if Text.isWordChar c then word [c]
  else mark c

/-- The current lexeme with one more character, if that may belong to it. -/
def extend? (quote : Char) : Current → Char → Option Current
  | start, _ => none
  | mark _, _ => none
  | word chars, c =>
      if Text.isWordChar c then some (word (chars ++ [c])) else none
  | inside kind chars, c =>
      if c = kind.delimiter quote then some (complete kind chars)
      else some (inside kind (chars ++ [c]))
  | complete kind chars, c =>
      if c = kind.delimiter quote then some (inside kind (chars ++ [c]))
      else none

/-- The current lexeme, if there is one and if it may end here. -/
def finish? : Current → Option (List Lexeme)
  | start => some []
  | mark c => some [.mark c]
  | word chars => some [.word (String.ofList chars)]
  | inside _ _ => none
  | complete kind chars => some [kind.lexeme chars]

end Current

structure Lexer where
  lexemes : List Lexeme
  current : Current

namespace Lexer

def start : Lexer :=
  ⟨[], .start⟩

def step (quote : Char) (lexer : Lexer) (c : Char) : Lexer :=
  match lexer.current.extend? quote c with
  | some next => ⟨lexer.lexemes, next⟩
  | none => ⟨lexer.lexemes ++ lexer.current.finish?.getD [], .begin quote c⟩

def finish? (lexer : Lexer) : Option (List Lexeme) :=
  lexer.current.finish?.map (lexer.lexemes ++ ·)

end Lexer

/-- The lexemes of a text in which names are quoted by `quote`.  A text that
ends inside of a name or a string has none. -/
def lexemes? (quote : Char) (text : List Char) : Option (List Lexeme) :=
  (text.foldl (Lexer.step quote) .start).finish?

example : lexemes? '"' "a.\"b\"\"c\" = 'it''s'".toList =
    some [.word "a", .mark '.', .name "b\"c", .mark ' ', .mark '=', .mark ' ',
      .string "it's"] := by
  decide

/-! ## What a mark separates -/

section Separate

variable {quote : Char}

theorem Enclosed.ne_delimiter_of_isMark
    (hquote : Text.isDelimiter quote = true) {c : Char}
    (hc : Text.isMark c = true) (kind : Enclosed) :
    c ≠ kind.delimiter quote := by
  rintro rfl
  have hdelimiter : Text.isDelimiter (kind.delimiter quote) = true := by
    cases kind with
    | name => exact hquote
    | string => rfl
  simp [Text.isMark, hdelimiter] at hc

theorem Text.isWordChar_of_isMark {c : Char} (hc : isMark c = true) :
    isWordChar c = false := by
  unfold isMark at hc
  simp_all

namespace Current

theorem begin_of_isMark (hquote : Text.isDelimiter quote = true) {c : Char}
    (hc : Text.isMark c = true) : begin quote c = mark c := by
  have hname : c ≠ quote := Enclosed.ne_delimiter_of_isMark hquote hc .name
  have hstring : c ≠ '\'' :=
    Enclosed.ne_delimiter_of_isMark hquote hc .string
  simp [begin, hname, hstring, Text.isWordChar_of_isMark hc]

/-- A lexeme that may end is not continued by a mark. -/
theorem extend?_of_isMark (hquote : Text.isDelimiter quote = true) {c : Char}
    (hc : Text.isMark c = true) {current : Current} {lexemes : List Lexeme}
    (h : current.finish? = some lexemes) : current.extend? quote c = none := by
  cases current with
  | start | mark _ => rfl
  | word chars => simp [extend?, Text.isWordChar_of_isMark hc]
  | inside kind chars => cases h
  | complete kind chars =>
      simp [extend?, Enclosed.ne_delimiter_of_isMark hquote hc kind]

end Current

namespace Lexer

theorem step_of_extend {lexemes : List Lexeme} {current next : Current}
    {c : Char} (h : current.extend? quote c = some next) :
    step quote ⟨lexemes, current⟩ c = ⟨lexemes, next⟩ := by
  rw [step, h]

theorem step_of_finish {lexemes complete : List Lexeme} {current : Current}
    {c : Char} (hextend : current.extend? quote c = none)
    (hfinish : current.finish? = some complete) :
    step quote ⟨lexemes, current⟩ c =
      ⟨lexemes ++ complete, .begin quote c⟩ := by
  rw [step, hextend, hfinish]
  rfl

/-- What was read before does not matter for what is read later. -/
theorem finish?_foldl_step (before : List Lexeme) (current : Current)
    (text : List Char) :
    (text.foldl (step quote) ⟨before, current⟩).finish? =
      (text.foldl (step quote) ⟨[], current⟩).finish?.map (before ++ ·) := by
  induction text generalizing before current with
  | nil => cases hfinish : current.finish? <;> simp [finish?, hfinish]
  | cons c text ih =>
      rw [List.foldl_cons, List.foldl_cons]
      cases hextend : current.extend? quote c with
      | some next =>
          rw [step_of_extend hextend, step_of_extend hextend]
          exact ih before next
      | none =>
          have hstep : ∀ lexemes : List Lexeme,
              step quote ⟨lexemes, current⟩ c =
                ⟨lexemes ++ current.finish?.getD [], .begin quote c⟩ := by
            intro lexemes
            rw [step, hextend]
          rw [hstep, hstep, ih, ih ([] ++ _), Option.map_map]
          simp [Function.comp_def, List.append_assoc]

/-- After a mark a new lexeme begins. -/
theorem current_after_mark (hquote : Text.isDelimiter quote = true)
    {lexer : Lexer} {c : Char} (hc : Text.isMark c = true)
    {lexemes : List Lexeme}
    (h : (lexer.step quote c).current.finish? = some lexemes) :
    (lexer.step quote c).current = .mark c := by
  have hbegin := Current.begin_of_isMark hquote hc
  unfold step at h ⊢
  cases hfinish : lexer.current.finish? with
  | some begun =>
      rw [Current.extend?_of_isMark hquote hc hfinish]
      exact hbegin
  | none =>
      cases hcurrent : lexer.current with
      | inside kind chars =>
          have hne := Enclosed.ne_delimiter_of_isMark hquote hc kind
          simp [hcurrent, Current.extend?, hne, Current.finish?] at h
      | _ => simp [hcurrent, Current.finish?] at hfinish

end Lexer

/-- Of two texts one after the other, the first ends with a mark or the second
begins with one. -/
def Text.Separate (before after : List Char) : Prop :=
  (∃ c ∈ before.getLast?, isMark c = true) ∨
    ∀ c ∈ after.head?, isMark c = true

theorem lexemes?_append (hquote : Text.isDelimiter quote = true)
    {before after : List Char} {lexemes : List Lexeme}
    (h : lexemes? quote before = some lexemes)
    (hseparate : Text.Separate before after) :
    lexemes? quote (before ++ after) =
      (lexemes? quote after).map (lexemes ++ ·) := by
  unfold lexemes? at h ⊢
  rw [List.foldl_append]
  generalize hreached : before.foldl (Lexer.step quote) .start = reached at h
  obtain ⟨complete, hcomplete, hlexemes⟩ := Option.map_eq_some_iff.mp h
  cases after with
  | nil =>
      rw [List.foldl_nil, Lexer.finish?, hcomplete]
      simp [Lexer.start, Lexer.finish?, Current.finish?, hlexemes]
  | cons c rest =>
      have hextend : reached.current.extend? quote c = none := by
        rcases hseparate with ⟨last, hlast, hmark⟩ | hhead
        · obtain ⟨front, rfl⟩ := List.getLast?_eq_some_iff.mp hlast
          rw [List.foldl_append] at hreached
          rw [← hreached] at hcomplete ⊢
          have hcurrent := Lexer.current_after_mark hquote hmark hcomplete
          rw [List.foldl_cons, List.foldl_nil, hcurrent]
          rfl
        · exact Current.extend?_of_isMark hquote (hhead c rfl) hcomplete
      have hstep : reached.step quote c = ⟨lexemes, .begin quote c⟩ := by
        rw [← hlexemes]
        exact Lexer.step_of_finish hextend hcomplete
      have hstart : Lexer.start.step quote c = ⟨[], .begin quote c⟩ := rfl
      rw [List.foldl_cons, List.foldl_cons, hstep, hstart,
        Lexer.finish?_foldl_step]

end Separate

/-! ## Names and strings -/

theorem Lexer.foldl_step_inside {quote : Char} (kind : Enclosed)
    (before : List Lexeme) (read chars : List Char) :
    (Text.Quoted.double (kind.delimiter quote) chars).foldl (step quote)
        ⟨before, .inside kind read⟩ =
      ⟨before, .inside kind (read ++ chars)⟩ := by
  induction chars generalizing read with
  | nil => simp
  | cons c chars ih =>
      by_cases hc : c = kind.delimiter quote
      · simp only [Text.Quoted.double, hc, if_true, List.foldl_cons, step,
          Current.extend?]
        rw [ih, List.append_assoc, List.singleton_append]
      · simp only [Text.Quoted.double, hc, if_false, List.foldl_cons, step,
          Current.extend?]
        rw [ih, List.append_assoc, List.singleton_append]

/-- Between two delimiters of its kind, a text is one lexeme. -/
theorem lexemes?_enclose {quote : Char} (kind : Enclosed) (text : List Char)
    (hquote : quote ≠ '\'') :
    lexemes? quote (kind.delimiter quote ::
        (Text.Quoted.double (kind.delimiter quote) text ++
          [kind.delimiter quote])) =
      some [kind.lexeme text] := by
  have hbegin : Current.begin quote (kind.delimiter quote) =
      .inside kind [] := by
    cases kind with
    | name => simp [Current.begin, Enclosed.delimiter]
    | string => simp [Current.begin, Enclosed.delimiter, hquote.symm]
  have hstart : Lexer.start.step quote (kind.delimiter quote) =
      ⟨[], .inside kind []⟩ := by
    simp [Lexer.step, Lexer.start, Current.extend?, Current.finish?, hbegin]
  unfold lexemes?
  rw [List.foldl_cons, hstart, List.foldl_append, Lexer.foldl_step_inside]
  simp [Lexer.step, Current.extend?, Lexer.finish?, Current.finish?]

/-! ## Texts without names and strings -/

namespace Lexeme

def extendWord (c : Char) : List Lexeme → List Lexeme
  | word text :: lexemes => word (String.ofList (c :: text.toList)) :: lexemes
  | lexemes => word (String.ofList [c]) :: lexemes

/-- The words and marks of a text in which nothing is quoted. -/
def plain (text : List Char) : List Lexeme :=
  text.foldr (fun c lexemes =>
    if Text.isWordChar c then extendWord c lexemes else mark c :: lexemes) []

example : plain "x1 >= :id".toList =
    [.word "x1", .mark ' ', .mark '>', .mark '=', .mark ' ', .mark ':',
      .word "id"] := by
  decide

theorem isQuoted_of_mem_extendWord {c : Char} {lexemes : List Lexeme}
    (h : ∀ lexeme ∈ lexemes, lexeme.isQuoted = false) :
    ∀ lexeme ∈ extendWord c lexemes, lexeme.isQuoted = false := by
  unfold extendWord
  split
  · rw [List.forall_mem_cons] at h ⊢
    exact ⟨rfl, h.2⟩
  · rw [List.forall_mem_cons]
    exact ⟨rfl, h⟩

theorem isQuoted_of_mem_plain (text : List Char) :
    ∀ lexeme ∈ plain text, lexeme.isQuoted = false := by
  induction text with
  | nil => simp [plain]
  | cons c text ih =>
      unfold plain at ih ⊢
      rw [List.foldr_cons]
      split
      · exact isQuoted_of_mem_extendWord ih
      · rw [List.forall_mem_cons]
        exact ⟨rfl, ih⟩

end Lexeme

section Plain

variable {quote : Char}

/-- What becomes of the lexemes after an unquoted one that was begun. -/
def Current.resume : Current → List Lexeme → List Lexeme
  | mark c, after => .mark c :: after
  | word chars, after => chars.foldr Lexeme.extendWord after
  | start, after | inside _ _, after | complete _ _, after => after

theorem Lexeme.foldr_extendWord {chars : List Char} (hchars : chars ≠ [])
    {after : List Lexeme}
    (hafter : ∀ c, extendWord c after = word (String.ofList [c]) :: after) :
    chars.foldr extendWord after = word (String.ofList chars) :: after := by
  induction chars with
  | nil => exact absurd rfl hchars
  | cons c chars ih =>
      cases chars with
      | nil => exact hafter c
      | cons d chars =>
          rw [List.foldr_cons, ih (List.cons_ne_nil d chars)]
          simp [extendWord]

theorem Lexer.finish?_foldl_plain (hquote : Text.isDelimiter quote = true)
    (text : List Char) (htext : ∀ c ∈ text, Text.isDelimiter c = false)
    (current : Current)
    (hcurrent : current = .start ∨ (∃ c, current = .mark c) ∨
      ∃ chars, chars ≠ [] ∧ current = .word chars) :
    (text.foldl (step quote) ⟨[], current⟩).finish? =
      some (current.resume (Lexeme.plain text)) := by
  induction text generalizing current with
  | nil =>
      rcases hcurrent with rfl | ⟨c, rfl⟩ | ⟨chars, hchars, rfl⟩
      · rfl
      · rfl
      · have hword : chars.foldr Lexeme.extendWord [] =
            [.word (String.ofList chars)] :=
          Lexeme.foldr_extendWord hchars fun c => rfl
        simp [finish?, Current.finish?, Current.resume, Lexeme.plain, hword]
  | cons c text ih =>
      rw [List.forall_mem_cons] at htext
      have hname : c ≠ quote := by
        rintro rfl
        simp [hquote] at htext
      have hstring : c ≠ '\'' := by
        rintro rfl
        exact absurd htext.1 (by decide)
      -- A new lexeme begins at `c` unless a word goes on there.
      have hnew : ∀ {complete : List Lexeme},
          current.extend? quote c = none →
          current.finish? = some complete →
          ((c :: text).foldl (step quote) ⟨[], current⟩).finish? =
            some (complete ++ Lexeme.plain (c :: text)) := by
        intro complete hextend hfinish
        rw [List.foldl_cons, step_of_finish hextend hfinish,
          List.nil_append, finish?_foldl_step]
        by_cases hc : Text.isWordChar c = true
        · have hbegin : Current.begin quote c = .word [c] := by
            simp [Current.begin, hname, hstring, hc]
          rw [hbegin, ih htext.2 (.word [c])
            (.inr (.inr ⟨[c], by simp, rfl⟩))]
          simp [Current.resume, Lexeme.plain, hc]
        · have hbegin : Current.begin quote c = .mark c := by
            simp [Current.begin, hname, hstring, hc]
          rw [hbegin, ih htext.2 (.mark c) (.inr (.inl ⟨c, rfl⟩))]
          simp [Current.resume, Lexeme.plain, hc]
      rcases hcurrent with rfl | ⟨m, rfl⟩ | ⟨chars, hchars, rfl⟩
      · exact hnew rfl rfl
      · exact hnew rfl rfl
      · by_cases hc : Text.isWordChar c = true
        · have hextend : (Current.word chars).extend? quote c =
              some (.word (chars ++ [c])) := by
            simp [Current.extend?, hc]
          rw [List.foldl_cons, step_of_extend hextend,
            ih htext.2 (.word (chars ++ [c]))
              (.inr (.inr ⟨chars ++ [c], by simp, rfl⟩))]
          simp [Current.resume, Lexeme.plain, hc]
        · have hextend : (Current.word chars).extend? quote c = none := by
            simp [Current.extend?, hc]
          have hplain : Lexeme.plain (c :: text) =
              .mark c :: Lexeme.plain text := by
            simp [Lexeme.plain, hc]
          have hword : chars.foldr Lexeme.extendWord
                (.mark c :: Lexeme.plain text) =
              .word (String.ofList chars) :: .mark c :: Lexeme.plain text :=
            Lexeme.foldr_extendWord hchars fun c => rfl
          rw [hnew hextend rfl, hplain, Current.resume, hword]
          rfl

/-- A text without delimiters has all its lexemes, whatever the quote is. -/
theorem lexemes?_plain (hquote : Text.isDelimiter quote = true)
    (text : List Char) (htext : ∀ c ∈ text, Text.isDelimiter c = false) :
    lexemes? quote text = some (Lexeme.plain text) :=
  Lexer.finish?_foldl_plain hquote text htext .start (.inl rfl)

end Plain

end SqlStatement
