import SqlStatement.Text.ExtendingMark
import SqlStatement.Text.Printable

/-!
# Escaped text

A text in a message stands between double quotes.  What would not be seen there,
or would be taken for something else, is written with a backslash: the quote and
the backslash, the common control characters by a letter, and all other
unprintable characters, and the marks that would be drawn on what stands before
them, by their code points.
-/

namespace SqlStatement.Text

namespace Escaped

def char (c : Char) : List Char :=
  match c with
  | '"' => ['\\', '"']
  | '\\' => ['\\', '\\']
  | '\n' => ['\\', 'n']
  | '\r' => ['\\', 'r']
  | '\t' => ['\\', 't']
  | '\x00' => ['\\', '0']
  | c =>
      if isPrintable c && !isExtendingMark c then [c]
      else ['\\', 'u', '\x7b'] ++ Nat.toDigits 16 c.toNat ++ ['\x7d']

end Escaped

/-- The text between double quotes, with nothing hidden in it. -/
def escape (text : String) : String :=
  String.ofList ('"' :: (text.toList.flatMap Escaped.char ++ ['"']))

end SqlStatement.Text
