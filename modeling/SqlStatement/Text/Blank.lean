/-!
# Blank text

Names, raw SQL and keywords given as text are refused when they are blank, that
is, when nothing but white space is in them, and keywords are read without the
white space around them.  White space is the Unicode class `White_Space`; the
zero-width characters do not belong to it.
-/

namespace SqlStatement.Text

/-- Membership in the Unicode class `White_Space`. -/
def isSpace (c : Char) : Bool :=
  let code := c.toNat
  (0x09 ≤ code && code ≤ 0x0D) || code == 0x20 || code == 0x85 ||
    code == 0xA0 || code == 0x1680 || (0x2000 ≤ code && code ≤ 0x200A) ||
    code == 0x2028 || code == 0x2029 || code == 0x202F || code == 0x205F ||
    code == 0x3000

/-- A text is blank when all its characters are white space; the empty text is
blank. -/
def isBlank (text : String) : Bool :=
  text.toList.all isSpace

def trimList (chars : List Char) : List Char :=
  ((chars.dropWhile isSpace).reverse.dropWhile isSpace).reverse

/-- The text without the white space at its two ends. -/
def trim (text : String) : String :=
  String.ofList (trimList text.toList)

theorem dropWhile_isSpace_eq_nil_iff (chars : List Char) :
    chars.dropWhile isSpace = [] ↔ chars.all isSpace = true := by
  induction chars with
  | nil => simp
  | cons c rest ih =>
      by_cases hc : isSpace c = true
      · simp [hc, ih]
      · simp [hc]

theorem dropWhile_isSpace_head {chars : List Char} {c : Char} {rest : List Char}
    (h : chars.dropWhile isSpace = c :: rest) : isSpace c = false := by
  induction chars with
  | nil => simp at h
  | cons d tail ih =>
      by_cases hd : isSpace d = true
      · exact ih (by simpa [List.dropWhile_cons, hd] using h)
      · simp only [List.dropWhile_cons, hd] at h
        simp_all

/-- Blank texts are those of which trimming leaves nothing. -/
theorem trim_eq_empty_iff (text : String) :
    trim text = "" ↔ isBlank text = true := by
  have hempty : trim text = "" ↔ trimList text.toList = [] := by
    rw [trim, ← String.toList_inj]
    simp
  rw [hempty, isBlank, ← dropWhile_isSpace_eq_nil_iff]
  constructor
  · intro h
    have hrev := List.reverse_eq_nil_iff.mp h
    rw [dropWhile_isSpace_eq_nil_iff, List.all_reverse] at hrev
    cases hdrop : text.toList.dropWhile isSpace with
    | nil => rfl
    | cons c rest =>
        have hc := dropWhile_isSpace_head hdrop
        simp [hdrop, hc] at hrev
  · intro h
    simp [trimList, h]

end SqlStatement.Text
