import PathQuery.Unicode.Category
import PathQuery.Unicode.Property

set_option autoImplicit false

namespace PathQuery.Unicode

def isBlank (c : Char) : Bool :=
  ('\t' ≤ c && c ≤ '\r') || c == ' ' || c == '\u0085' || c == '\u00a0' || c == '\u1680' ||
    ('\u2000' ≤ c && c ≤ '\u200a') || c == '\u2028' || c == '\u2029' || c == '\u202f' ||
    c == '\u205f' || c == '\u3000'

def category (name : String) : CodeSet := categoryTable.codes name

def property (name : String) : CodeSet := propertyTable.codes name

def alphabetic : CodeSet := property "Alphabetic"

def graphemeExtend : CodeSet := property "Grapheme_Extend"

def decimalDigit : CodeSet := category "Nd"

def otherNumber : List CodeSet := [category "Nl", category "No"]

def mark : List CodeSet := [category "Mn", category "Mc", category "Me"]

def connector : CodeSet := category "Pc"

def hidden : List CodeSet :=
  [category "Cc", category "Cf", category "Co", category "Cn", category "Zl", category "Zp",
    category "Zs"]

def isAscii (c : Char) : Bool := c.toNat < 128

def isAlphabetic (c : Char) : Bool :=
  if isAscii c then c.isAlpha else alphabetic.contains c

def isDecimal (c : Char) : Bool :=
  if isAscii c then c.isDigit else decimalDigit.contains c

def isNumeric (c : Char) : Bool :=
  isDecimal c || (!isAscii c && otherNumber.any (·.contains c))

def isAsciiWord (c : Char) : Bool := c.isAlphanum || c == '_'

def isWord (c : Char) : Bool :=
  if isAscii c then isAsciiWord c
  else alphabetic.contains c || mark.any (·.contains c) || decimalDigit.contains c ||
    connector.contains c || c == '\u200c' || c == '\u200d'

def isPrintable (c : Char) : Bool :=
  if isAscii c then ' ' ≤ c && c ≤ '~' else !hidden.any (·.contains c)

def isExtending (c : Char) : Bool :=
  !isAscii c && graphemeExtend.contains c

def trimBlanks (s : List Char) : List Char :=
  ((s.dropWhile isBlank).reverse.dropWhile isBlank).reverse

end PathQuery.Unicode
