import SqlStatement.Identifier
import SqlStatement.Literal
import Mathlib.Tactic

/-!
# How quoted texts are read

A quoted text is read from its opening delimiter to the first closing one that
is not doubled.  What is read that way is what was quoted, and what is left is
what stands after it, provided this does not go on with a closing delimiter.
Nothing else is read as quoted text, so that quoting loses nothing.
-/

namespace SqlStatement

namespace Text.Quoted

/-- What stands before the closing delimiter, and what follows it. -/
def readBody? (closing : Char) : List Char → Option (List Char × List Char)
  | [] => none
  | [c] => if c = closing then some ([], []) else none
  | c :: d :: text =>
      if c = closing then
        if d = closing then
          (readBody? closing text).map fun (value, rest) => (c :: value, rest)
        else some ([], d :: text)
      else
        (readBody? closing (d :: text)).map fun (value, rest) =>
          (c :: value, rest)

/-- The quoted text at the beginning of a text, and what follows it. -/
def read? (opening closing : Char) : List Char → Option (String × List Char)
  | [] => none
  | c :: text =>
      if c = opening then
        (readBody? closing text).map fun (value, rest) =>
          (String.ofList value, rest)
      else none

/-! ## One step of the reader -/

variable {closing : Char}

theorem readBody?_end {rest : List Char} (hrest : rest.head? ≠ some closing) :
    readBody? closing (closing :: rest) = some ([], rest) := by
  cases rest with
  | nil => simp [readBody?]
  | cons d text =>
      have hd : d ≠ closing := by simpa using hrest
      simp [readBody?, hd]

theorem readBody?_pair (text : List Char) :
    readBody? closing (closing :: closing :: text) =
      (readBody? closing text).map fun (value, rest) =>
        (closing :: value, rest) := by
  simp [readBody?]

theorem readBody?_plain {c : Char} (hc : c ≠ closing) (text : List Char) :
    readBody? closing (c :: text) =
      (readBody? closing text).map fun (value, rest) => (c :: value, rest) := by
  cases text with
  | nil => simp [readBody?, hc]
  | cons d text => simp [readBody?, hc]

theorem readBody?_double_cons (c : Char) (chars text : List Char) :
    readBody? closing (double closing (c :: chars) ++ text) =
      (readBody? closing (double closing chars ++ text)).map
        fun (value, rest) => (c :: value, rest) := by
  by_cases hc : c = closing
  · subst hc
    rw [double_cons_self, List.cons_append, List.cons_append, readBody?_pair]
  · rw [double_cons_of_ne hc, List.cons_append, readBody?_plain hc]

/-! ## What is read is what was written -/

theorem readBody?_double (chars : List Char) {rest : List Char}
    (hrest : rest.head? ≠ some closing) :
    readBody? closing (double closing chars ++ closing :: rest) =
      some (chars, rest) := by
  induction chars with
  | nil => exact readBody?_end hrest
  | cons c chars ih =>
      rw [readBody?_double_cons, ih]
      rfl

theorem eq_double_of_readBody? {text value rest : List Char}
    (h : readBody? closing text = some (value, rest)) :
    text = double closing value ++ closing :: rest ∧
      rest.head? ≠ some closing := by
  -- The reader goes on after a doubled delimiter and after any other character,
  -- and only after a delimiter that is not doubled it stops.
  fun_induction readBody? closing text generalizing value with
  | case1 => cases h
  | case2 =>
      obtain ⟨rfl, rfl⟩ := Prod.mk.inj (Option.some.inj h)
      simp
  | case3 => cases h
  | case4 text ih =>
      obtain ⟨⟨inner, _⟩, hread, heq⟩ := Option.map_eq_some_iff.mp h
      obtain ⟨rfl, rfl⟩ := Prod.mk.inj heq
      obtain ⟨htext, hrest⟩ := ih hread
      rw [double_cons_self, htext]
      exact ⟨rfl, hrest⟩
  | case5 d text hd =>
      obtain ⟨rfl, rfl⟩ := Prod.mk.inj (Option.some.inj h)
      simpa using hd
  | case6 c d text hc ih =>
      obtain ⟨⟨inner, _⟩, hread, heq⟩ := Option.map_eq_some_iff.mp h
      obtain ⟨rfl, rfl⟩ := Prod.mk.inj heq
      obtain ⟨htext, hrest⟩ := ih hread
      rw [double_cons_of_ne hc, htext]
      exact ⟨rfl, hrest⟩

theorem read?_eq_some_iff {opening closing : Char} {text rest : List Char}
    {value : String} :
    read? opening closing text = some (value, rest) ↔
      text = (enclose opening closing value).toList ++ rest ∧
        rest.head? ≠ some closing := by
  rw [toList_enclose]
  constructor
  · intro h
    cases text with
    | nil => cases h
    | cons c text =>
        by_cases hc : c = opening
        · rw [read?, if_pos hc] at h
          obtain ⟨⟨chars, _⟩, hread, heq⟩ := Option.map_eq_some_iff.mp h
          obtain ⟨rfl, rfl⟩ := Prod.mk.inj heq
          obtain ⟨htext, hrest⟩ := eq_double_of_readBody? hread
          refine ⟨?_, hrest⟩
          simp [hc, htext]
        · rw [read?, if_neg hc] at h
          cases h
  · rintro ⟨rfl, hrest⟩
    simp [read?, readBody?_double _ hrest]

/-! ## Encodings that show where they end -/

/-- What was written in this form is read back, whatever follows that does not
begin with the quote, and nothing else is read as something in this form. -/
structure SelfDelimiting (quote : Char) (form : String → String) : Prop where
  read_back : ∀ (value : String) (rest : List Char), rest.head? ≠ some quote →
    read? quote quote ((form value).toList ++ rest) = some (value, rest)
  eq_of_read : ∀ (text : List Char) (value : String) (rest : List Char),
    read? quote quote text = some (value, rest) →
      text = (form value).toList ++ rest ∧ rest.head? ≠ some quote
  injective : Function.Injective form

theorem selfDelimiting_encode (quote : Char) :
    SelfDelimiting quote (encode quote) := by
  have hread : ∀ (value : String) (rest : List Char),
      rest.head? ≠ some quote →
        read? quote quote ((encode quote value).toList ++ rest) =
          some (value, rest) := by
    intro value rest hrest
    exact read?_eq_some_iff.mpr ⟨rfl, hrest⟩
  constructor
  case read_back => exact hread
  case eq_of_read =>
    intro text value rest h
    exact read?_eq_some_iff.mp h
  case injective =>
    intro first second heq
    have hfirst := hread first [] (by simp)
    rw [heq, hread second [] (by simp)] at hfirst
    exact (Prod.mk.inj (Option.some.inj hfirst)).1.symm

end Text.Quoted

open Text.Quoted

theorem Literal.sql_string_eq_encode (value : String) :
    (Literal.string value).sql = encode '\'' value := by
  rw [← String.toList_inj]
  simp [Literal.sql, encode, toList_replaceChar_apostrophe]

/-- Quoted names and strings are read back, whatever follows that does not
begin with the quote.  The strings are written by another rule than the names,
which does the same as theirs when the quote is an apostrophe. -/
theorem quoted_texts_self_delimiting :
    (∀ quote : Char, SelfDelimiting quote (encode quote)) ∧
    (∀ (quote : Char) (id : Identifier) (rest : List Char),
      rest.head? ≠ some quote →
        read? quote quote ((id.sqlWith quote true).toList ++ rest) =
          some (id.name, rest)) ∧
    SelfDelimiting '\'' (fun value => (Literal.string value).sql) ∧
    ∀ value : String, (Literal.string value).sql = encode '\'' value := by
  refine ⟨selfDelimiting_encode, ?_, ?_, Literal.sql_string_eq_encode⟩
  · intro quote id rest hrest
    exact (selfDelimiting_encode quote).read_back id.name rest hrest
  · have hform : (fun value => (Literal.string value).sql) = encode '\'' :=
      funext Literal.sql_string_eq_encode
    rw [hform]
    exact selfDelimiting_encode '\''

/-- A name and a string of nothing but quotes, and an empty string. -/
theorem quotes_alone_read_back :
    " AS q".toList.head? ≠ some '"' ∧
      read? '"' '"' "\"\"\"\"\"\" AS q".toList =
        some ("\"\"", " AS q".toList) ∧
      read? '\'' '\'' "'''', 1)".toList = some ("'", ", 1)".toList) ∧
      read? '\'' '\'' "'')".toList = some ("", ")".toList) := by
  obtain ⟨hnames, _, hstrings, _⟩ := quoted_texts_self_delimiting
  have hname : " AS q".toList.head? ≠ some '"' := by decide
  refine ⟨hname, ?_, ?_, ?_⟩
  · exact (hnames '"').read_back "\"\"" " AS q".toList hname
  · exact hstrings.read_back "'" ", 1)".toList (by decide)
  · exact hstrings.read_back "" ")".toList (by decide)

end SqlStatement
