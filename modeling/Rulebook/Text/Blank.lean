/-!
# Blanks

The characters that separate words and that trimming removes.  Two sets are in use: texts of a
document are trimmed of every blank, the fields of a rule document of Unicode white space only,
which leaves out the four information separators U+001C to U+001F.
-/

namespace Rulebook.Text

/-- Unicode white space. -/
def isWhiteSpace (c : Char) : Bool :=
  let point := c.toNat
  (9 ≤ point && point ≤ 13) || point == 0x20 || point == 0x85 || point == 0xA0 ||
    point == 0x1680 || (0x2000 ≤ point && point ≤ 0x200A) || point == 0x2028 || point == 0x2029 ||
    point == 0x202F || point == 0x205F || point == 0x3000

/-- White space and the information separators. -/
def isBlank (c : Char) : Bool :=
  isWhiteSpace c || (0x1C ≤ c.toNat && c.toNat ≤ 0x1F)

/-- ASCII white space: space, tab, line feed, vertical tab, form feed and carriage return. -/
def isAsciiBlank (c : Char) : Bool :=
  c == ' ' || (9 ≤ c.toNat && c.toNat ≤ 13)

/-- A text without the characters of the class at its two ends. -/
def trimWhile (inClass : Char → Bool) (text : List Char) : List Char :=
  ((text.dropWhile inClass).reverse.dropWhile inClass).reverse

/-- A text without the blanks at its two ends. -/
def trim (text : String) : String :=
  String.ofList (trimWhile isBlank text.toList)

end Rulebook.Text
