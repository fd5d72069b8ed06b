import MetricLayer.Text.CharRanges

/-!
# Blank characters

The blanks are the white space of Unicode together with the four information separators
U+001C to U+001F.  `strip` removes them from both ends of a text.
-/

namespace MetricLayer.Text

/-- The blank code points. -/
def blankRanges : CharRanges := [
    (0x9, 0xD), (0x1C, 0x20), (0x85, 0x85), (0xA0, 0xA0), (0x1680, 0x1680), (0x2000, 0x200A),
    (0x2028, 0x2029), (0x202F, 0x202F), (0x205F, 0x205F), (0x3000, 0x3000)]

/-- The character is a blank. -/
def isBlank (c : Char) : Bool := blankRanges.covers c

/-- The characters without the blanks at the end. -/
def stripEnd (cs : List Char) : List Char := (cs.reverse.dropWhile isBlank).reverse

/-- The characters without the blanks at both ends. -/
def stripBlanks (cs : List Char) : List Char := stripEnd (cs.dropWhile isBlank)

/-- The text without the blanks at both ends. -/
def strip (s : String) : String := String.ofList (stripBlanks s.toList)

/-- The text is empty or holds blanks only. -/
def isBlankText (s : String) : Bool := s.toList.all isBlank

end MetricLayer.Text
