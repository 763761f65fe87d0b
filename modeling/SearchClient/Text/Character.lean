import SearchClient.Text.Alphabetic
import SearchClient.Text.Mark
import SearchClient.Text.Numeric
import SearchClient.Text.Recent

/-! The classes of characters on which queries, names and numbers depend. All of them are classes of
    Unicode, not of ASCII. -/

namespace SearchClient.Text

/-- White space: the property White_Space. -/
def whiteSpaceRanges : Ranges :=
  [(0x09, 0x0D), (0x20, 0x20), (0x85, 0x85), (0xA0, 0xA0), (0x1680, 0x1680), (0x2000, 0x200A),
   (0x2028, 0x2029), (0x202F, 0x202F), (0x205F, 0x205F), (0x3000, 0x3000)]

/-- Whether a character is white space. -/
def isBlank (c : Char) : Bool := whiteSpaceRanges.contains c.toNat

/-- Whether a character is a control character (category Cc). -/
def isControl (c : Char) : Bool := c.toNat < 0x20 || (0x7F ≤ c.toNat && c.toNat ≤ 0x9F)

/-- Whether a character is a letter or a number: alphabetic, or of a number category. -/
def isAlphanumeric (c : Char) : Bool :=
  if c.toNat < 0x80 then c.isAlphanum
  else alphabeticRanges.contains c.toNat || recentAlphabeticRanges.contains c.toNat ||
    decimalDigitRanges.contains c.toNat || recentDigitRanges.contains c.toNat ||
    otherNumberRanges.contains c.toNat

/-- Whether a character is a decimal digit of some script, up to version 16 of Unicode. -/
def isDecimalDigit (c : Char) : Bool :=
  if c.toNat < 0x80 then c.isDigit else decimalDigitRanges.contains c.toNat

/-- Whether a character belongs to words: alphabetic, a combining mark, a decimal digit, a connector or
    a joiner, up to version 16 of Unicode. -/
def isWordCharacter (c : Char) : Bool :=
  if c.toNat < 0x80 then c.isAlphanum || c == '_'
  else alphabeticRanges.contains c.toNat || markRanges.contains c.toNat ||
    decimalDigitRanges.contains c.toNat || connectorRanges.contains c.toNat

end SearchClient.Text
