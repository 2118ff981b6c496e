import FailureIntake.Text.CharRanges

/-! White space: the characters with the White_Space property. -/
namespace FailureIntake.Text

/-- The White_Space property of the Unicode character database. -/
def whitespaces : CharRanges where
  ranges := [(0x9, 0xD), (0x20, 0x20), (0x85, 0x85), (0xA0, 0xA0), (0x1680, 0x1680),
    (0x2000, 0x200A), (0x2028, 0x2029), (0x202F, 0x202F), (0x205F, 0x205F), (0x3000, 0x3000)]

/-- A space of any script, a tab or a line break. -/
def isWhitespace (c : Char) : Bool :=
  whitespaces.contains c

def trimStart (s : List Char) : List Char :=
  s.dropWhile isWhitespace

def trim (s : List Char) : List Char :=
  (trimStart (trimStart s).reverse).reverse

end FailureIntake.Text
