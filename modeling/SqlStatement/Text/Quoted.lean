/-!
# Quoted text

A quoted text stands between an opening and a closing delimiter, and a closing
delimiter inside it is written twice.  Identifiers use one character for both
delimiters; some databases use a pair of brackets.
-/

namespace SqlStatement.Text

/-- Each occurrence of `target` is replaced by `substitute`. -/
def replaceChar (target : Char) (substitute : String) (text : String) :
    String :=
  String.ofList (text.toList.flatMap fun c =>
    if c = target then substitute.toList else [c])

namespace Quoted

/-- The characters between the delimiters: the closing one is doubled, the
others are kept. -/
def double (closing : Char) : List Char → List Char
  | [] => []
  | c :: rest =>
      if c = closing then c :: c :: double closing rest
      else c :: double closing rest

/-- `text` between the delimiters `opening` and `closing`. -/
def enclose (opening closing : Char) (text : String) : String :=
  String.ofList (opening :: (double closing text.toList ++ [closing]))

/-- `text` between two quotes `quote`. -/
def encode (quote : Char) (text : String) : String :=
  enclose quote quote text

@[simp] theorem double_nil (closing : Char) : double closing [] = [] :=
  rfl

theorem double_cons_self (closing : Char) (rest : List Char) :
    double closing (closing :: rest) =
      closing :: closing :: double closing rest := by
  rw [double, if_pos rfl]

theorem double_cons_of_ne {c closing : Char} (h : c ≠ closing)
    (rest : List Char) :
    double closing (c :: rest) = c :: double closing rest := by
  rw [double, if_neg h]

@[simp] theorem toList_enclose (opening closing : Char) (text : String) :
    (enclose opening closing text).toList =
      opening :: (double closing text.toList ++ [closing]) := by
  simp [enclose]

/-- Writing two apostrophes for each one is doubling it. -/
theorem toList_replaceChar_apostrophe (text : String) :
    (replaceChar '\'' "''" text).toList = double '\'' text.toList := by
  rw [replaceChar, String.toList_ofList]
  induction text.toList with
  | nil => rfl
  | cons c chars ih =>
      rw [List.flatMap_cons, ih]
      by_cases hc : c = '\''
      · subst hc
        rw [if_pos rfl, double_cons_self]
        rfl
      · rw [if_neg hc, double_cons_of_ne hc, List.singleton_append]

end Quoted

end SqlStatement.Text
