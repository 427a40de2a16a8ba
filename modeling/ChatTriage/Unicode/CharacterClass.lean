import ChatTriage.Unicode.Alphabetic
import ChatTriage.Unicode.DecimalDigit
import ChatTriage.Unicode.Mark
import ChatTriage.Unicode.OtherNumber

/-!
# Character classes

The four classes that the rules of this library speak of. Each one answers for
ASCII without a table. The classes of patterns follow version 16 of the standard, and
what counts as a letter or a number in the text around a link follows version 17.
-/

namespace ChatTriage.Unicode

/-- Code points with the property `White_Space`. The zero width space and the byte
order mark are not among them. -/
def whiteSpace : CodePointSet where
  boundaries := #[
    0x9, 0xE, 0x20, 0x21, 0x85, 0x86, 0xA0, 0xA1, 0x1680, 0x1681, 0x2000, 0x200B,
    0x2028, 0x202A, 0x202F, 0x2030, 0x205F, 0x2060, 0x3000, 0x3001]

/-- Code points of general category `Pc`, of which the low line is the ASCII one. -/
def connectorPunctuation : CodePointSet where
  boundaries := #[
    0x5F, 0x60, 0x203F, 0x2041, 0x2054, 0x2055, 0xFE33, 0xFE35, 0xFE4D, 0xFE50,
    0xFF3F, 0xFF40]

/-- Letters, vowel signs and numbers that came with version 17 of the standard. -/
def newAlphanumeric : CodePointSet where
  boundaries := #[
    0x88F, 0x890, 0xC5C, 0xC5D, 0xCDC, 0xCDD, 0xA7CE, 0xA7D0, 0xA7D2, 0xA7D3, 0xA7D4,
    0xA7D5, 0xA7F1, 0xA7F2, 0x10940, 0x1095A, 0x10EC5, 0x10EC8, 0x10EFA, 0x10EFC,
    0x11B60, 0x11B68, 0x11DB0, 0x11DDC, 0x11DE0, 0x11DEA, 0x16EA0, 0x16EB9, 0x16EBB,
    0x16ED4, 0x16FF2, 0x16FF7, 0x187F8, 0x18800, 0x18D09, 0x18D1F, 0x18D80, 0x18DF3,
    0x1E6C0, 0x1E6DF, 0x1E6E0, 0x1E6F6, 0x1E6FE, 0x1E700, 0x2B73A, 0x2B740, 0x2CEA2,
    0x2CEAE, 0x323B0, 0x3347A]

def isBlank (c : Char) : Bool :=
  if c.toNat < 0x80 then
    c == ' ' || ('\t' ≤ c && c ≤ '\r')
  else
    whiteSpace.contains c

def isDigit (c : Char) : Bool :=
  if c.toNat < 0x80 then c.isDigit else decimalDigit.contains c

def isAlphanumeric (c : Char) : Bool :=
  if c.toNat < 0x80 then
    c.isAlphanum
  else
    alphabetic.contains c || decimalDigit.contains c || otherNumber.contains c ||
      newAlphanumeric.contains c

/-- Word characters: letters, marks, decimal digits, connectors and the two join
controls. Fractions and circled digits are none. -/
def isWord (c : Char) : Bool :=
  if c.toNat < 0x80 then
    c.isAlphanum || c == '_'
  else
    alphabetic.contains c || mark.contains c || decimalDigit.contains c ||
      connectorPunctuation.contains c || c == '\u200c' || c == '\u200d'

def wordPoints : CodePointSet :=
  .unionAll 3 [alphabetic, mark, decimalDigit, connectorPunctuation, .interval 0x200C 0x200D]

end ChatTriage.Unicode
