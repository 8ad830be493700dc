import RubyLower.Text.Ranges

/-!
# Blank characters and trimming

The Unicode property `White_Space`: the tab to carriage return controls, the space, the next-line
control, the no-break spaces, the typographic spaces of the General Punctuation block, the line
and paragraph separators and the ideographic space. `trimBlank` drops such characters at both ends
of a text.
-/

namespace RubyLower.Text

/-- The code points with the property `White_Space`. -/
def blankTable : RangeTable := #[
  (0x9, 0xd), (0x20, 0x20), (0x85, 0x85), (0xa0, 0xa0), (0x1680, 0x1680),
  (0x2000, 0x200a), (0x2028, 0x2029), (0x202f, 0x202f), (0x205f, 0x205f), (0x3000, 0x3000)]

/-- Whether `c` has the property `White_Space`. -/
def isBlank (c : Char) : Bool :=
  blankTable.contains c.toNat

/-- The text without its leading and trailing blank characters. -/
def trimBlank (s : String) : String :=
  String.ofList ((s.toList.dropWhile isBlank).reverse.dropWhile isBlank).reverse

end RubyLower.Text
