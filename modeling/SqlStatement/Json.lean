/-!
# Reading JSON

The reader takes the grammar strictly: no comments, no trailing commas, no
control characters in strings, no leading zeros.  It has no limit on depth, and
it keeps no numbers, because nothing that is configured is one.  An escape may
name half of a character pair; such a string is in the grammar but stands for no
text.
-/

namespace SqlStatement.Json

inductive Value where
  | null
  | boolean (value : Bool)
  | number
  | string (text : Option String)
  | array (items : List Value)
  | object (fields : List (Option String × Value))

def isSpace (c : Char) : Bool :=
  c == ' ' || c == '\t' || c == '\n' || c == '\r'

def skipSpace (chars : List Char) : List Char :=
  chars.dropWhile isSpace

def hexDigit? (c : Char) : Option Nat :=
  if '0' ≤ c ∧ c ≤ '9' then some (c.toNat - '0'.toNat)
  else if 'a' ≤ c ∧ c ≤ 'f' then some (c.toNat - 'a'.toNat + 10)
  else if 'A' ≤ c ∧ c ≤ 'F' then some (c.toNat - 'A'.toNat + 10)
  else none

/-- The 16-bit unit that four hexadecimal digits give. -/
def unit? (a b c d : Char) : Option Nat := do
  let digits ← [a, b, c, d].mapM hexDigit?
  return digits.foldl (fun value digit => 16 * value + digit) 0

/-- The characters that stand for themselves or something else after a
backslash. -/
def escaped? : Char → Option Char
  | '"' => some '"'
  | '\\' => some '\\'
  | '/' => some '/'
  | 'b' => some '\x08'
  | 'f' => some '\x0c'
  | 'n' => some '\n'
  | 'r' => some '\r'
  | 't' => some '\t'
  | _ => none

/-- What stands between the quotes of a string: characters, and 16-bit units
given by escapes. -/
inductive Piece where
  | char (c : Char)
  | unit (value : Nat)

/-- The pieces of a string whose opening quote was read, and what follows its
closing quote. -/
def pieces? : List Char → Option (List Piece × List Char)
  | [] => none
  | '"' :: rest => some ([], rest)
  | '\\' :: 'u' :: a :: b :: c :: d :: rest => do
      let value ← unit? a b c d
      let (pieces, rest) ← pieces? rest
      return (.unit value :: pieces, rest)
  | '\\' :: c :: rest => do
      let c ← escaped? c
      let (pieces, rest) ← pieces? rest
      return (.char c :: pieces, rest)
  | c :: rest =>
      if c.toNat < 0x20 then none
      else do
        let (pieces, rest) ← pieces? rest
        return (.char c :: pieces, rest)

/-- The text of a string, if its units pair up to characters. -/
def textOf? : List Piece → Option (List Char)
  | [] => some []
  | .char c :: rest => (c :: ·) <$> textOf? rest
  | .unit high :: .unit low :: rest =>
      if high < 0xD800 ∨ 0xDFFF < high then
        (Char.ofNat high :: ·) <$> textOf? (.unit low :: rest)
      else if high < 0xDC00 ∧ 0xDC00 ≤ low ∧ low ≤ 0xDFFF then
        (Char.ofNat (0x10000 + (high - 0xD800) * 0x400 + (low - 0xDC00)) :: ·)
          <$> textOf? rest
      else none
  | .unit value :: rest =>
      if value < 0xD800 ∨ 0xDFFF < value then
        (Char.ofNat value :: ·) <$> textOf? rest
      else none

def string? (chars : List Char) : Option (Option String × List Char) := do
  let (pieces, rest) ← pieces? chars
  return (String.ofList <$> textOf? pieces, rest)

/-- What follows one digit or more. -/
def digits? (chars : List Char) : Option (List Char) :=
  let rest := chars.dropWhile Char.isDigit
  if rest.length < chars.length then some rest else none

/-- What follows the digits before the point; a zero in front stands alone. -/
def whole? : List Char → Option (List Char)
  | '0' :: rest => some rest
  | chars => digits? chars

def fraction? : List Char → Option (List Char)
  | '.' :: rest => digits? rest
  | chars => some chars

def exponent? : List Char → Option (List Char)
  | c :: rest =>
      if c = 'e' ∨ c = 'E' then
        match rest with
        | '+' :: rest => digits? rest
        | '-' :: rest => digits? rest
        | rest => digits? rest
      else some (c :: rest)
  | [] => some []

/-- What follows a number. -/
def number? (chars : List Char) : Option (List Char) := do
  let chars := match chars with
    | '-' :: rest => rest
    | chars => chars
  exponent? (← fraction? (← whole? chars))

mutual

/-- A value and what follows it.  The first argument bounds the number of steps.
-/
def value? : Nat → List Char → Option (Value × List Char)
  | 0, _ => none
  | steps + 1, chars =>
      match skipSpace chars with
      | '"' :: rest => do
          let (text, rest) ← string? rest
          return (.string text, rest)
      | '[' :: rest =>
          match skipSpace rest with
          | ']' :: rest => some (.array [], rest)
          | rest => do
              let (items, rest) ← items? steps rest
              return (.array items, rest)
      | '\x7b' :: rest =>
          match skipSpace rest with
          | '\x7d' :: rest => some (.object [], rest)
          | rest => do
              let (fields, rest) ← fields? steps rest
              return (.object fields, rest)
      | 't' :: 'r' :: 'u' :: 'e' :: rest => some (.boolean true, rest)
      | 'f' :: 'a' :: 'l' :: 's' :: 'e' :: rest => some (.boolean false, rest)
      | 'n' :: 'u' :: 'l' :: 'l' :: rest => some (.null, rest)
      | rest => do
          let rest ← number? rest
          return (.number, rest)

/-- The items of an array from the next one on, and what follows its closing
bracket. -/
def items? : Nat → List Char → Option (List Value × List Char)
  | 0, _ => none
  | steps + 1, chars => do
      let (item, rest) ← value? steps chars
      match skipSpace rest with
      | ',' :: rest => do
          let (items, rest) ← items? steps rest
          return (item :: items, rest)
      | ']' :: rest => some ([item], rest)
      | _ => none

/-- The fields of an object from the next one on, and what follows its closing
brace. -/
def fields? :
    Nat → List Char → Option (List (Option String × Value) × List Char)
  | 0, _ => none
  | steps + 1, chars => do
      let '"' :: rest := skipSpace chars | none
      let (name, rest) ← string? rest
      let ':' :: rest := skipSpace rest | none
      let (value, rest) ← value? steps rest
      match skipSpace rest with
      | ',' :: rest => do
          let (fields, rest) ← fields? steps rest
          return ((name, value) :: fields, rest)
      | '\x7d' :: rest => some ([(name, value)], rest)
      | _ => none

end

/-- The value that a text consists of.  Each bracket takes two steps, so that
twice the length of the text bounds them. -/
def parse? (text : String) : Option Value := do
  let chars := text.toList
  let (value, rest) ← value? (2 * chars.length + 2) chars
  if (skipSpace rest).isEmpty then return value else none

end SqlStatement.Json
