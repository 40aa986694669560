import FilterBook.Text.Hidden

/-!
Texts as rows of characters: their size in UTF-8, the numbers that are written in digits, what is
left of a text without the blanks at its ends, and a text in quotation marks.
-/

namespace FilterBook

/-- The number of bytes of a text in UTF-8. -/
def byteLength (text : List Char) : Nat :=
  text.foldl (fun size c => size + c.utf8Size) 0

/-- The value of a row of digits, of ASCII alone, of which there must be one at least. -/
def decimal? (text : List Char) : Option Nat :=
  if text ≠ [] ∧ text.all Char.isDigit then some (Nat.ofDigitChars 10 text 0) else none

/-- The value of a row of digits that may have a sign before it. -/
def signedDecimal? : List Char → Option Int
  | '-' :: digits => (decimal? digits).map fun n => -(n : Int)
  | '+' :: digits => (decimal? digits).map fun n => (n : Int)
  | digits => (decimal? digits).map fun n => (n : Int)

/-- The value of a hexadecimal digit. -/
def hexValue? (c : Char) : Option Nat :=
  if '0' ≤ c ∧ c ≤ '9' then some (c.toNat - '0'.toNat)
  else if 'a' ≤ c ∧ c ≤ 'f' then some (c.toNat - 'a'.toNat + 10)
  else if 'A' ≤ c ∧ c ≤ 'F' then some (c.toNat - 'A'.toNat + 10)
  else none

/-- The value of a row of hexadecimal digits. -/
def hexNumber? (digits : List Char) : Option Nat :=
  digits.foldlM (fun value digit => (hexValue? digit).map (value * 16 + ·)) 0

/-- The character with a number of the given count of hexadecimal digits at the front of a text. -/
def numberedChar? (count : Nat) (text : List Char) : Option Char := do
  let digits := text.take count
  let value ← hexNumber? digits
  if digits.length = count ∧ ¬(0xD800 ≤ value ∧ value ≤ 0xDFFF) ∧ value ≤ 0x10FFFF then
    some (Char.ofNat value)
  else none

/-- Whether a character separates words in any script, as the Unicode property White_Space has
it. -/
def isSpace (c : Char) : Bool :=
  let n := c.toNat
  (9 ≤ n && n ≤ 13) || n == 0x20 || n == 0x85 || n == 0xA0 || n == 0x1680 ||
    (0x2000 ≤ n && n ≤ 0x200A) || n == 0x2028 || n == 0x2029 || n == 0x202F || n == 0x205F ||
    n == 0x3000

def trimStart (text : List Char) : List Char :=
  text.dropWhile isSpace

def trimEnd (text : List Char) : List Char :=
  (trimStart text.reverse).reverse

def trim (text : List Char) : List Char :=
  trimEnd (trimStart text)

/-- A number in hexadecimal, in lower case. -/
def writeHex (n : Nat) : List Char :=
  Nat.toDigits 16 n

/-- A character as it stands between quotation marks: quotes and backslashes are escaped, the usual
control characters by their letters, and everything else that cannot be shown by its number. -/
def quoteChar (c : Char) : List Char :=
  if c = '"' then ['\\', '"']
  else if c = '\\' then ['\\', '\\']
  else if c = '\x00' then ['\\', '0']
  else if c = '\t' then ['\\', 't']
  else if c = '\n' then ['\\', 'n']
  else if c = '\r' then ['\\', 'r']
  else if isHidden c then '\\' :: 'u' :: '\x7b' :: writeHex c.toNat ++ ['\x7d']
  else [c]

/-- A text in quotation marks, as a message shows it. -/
def quote (text : String) : String :=
  String.ofList ('"' :: text.toList.flatMap quoteChar ++ ['"'])

end FilterBook
