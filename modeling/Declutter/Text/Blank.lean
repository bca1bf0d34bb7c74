import Declutter.Text.Basic

namespace Declutter.Text

/-- The characters with the Unicode property White_Space. -/
def isBlank (c : Char) : Bool :=
  let n := c.toNat
  (9 ≤ n && n ≤ 13) || n == 0x20 || n == 0x85 || n == 0xA0 || n == 0x1680 ||
    (0x2000 ≤ n && n ≤ 0x200A) || n == 0x2028 || n == 0x2029 || n == 0x202F ||
    n == 0x205F || n == 0x3000

def trimStart (t : Text) : Text :=
  t.dropWhile isBlank

def trimEnd (t : Text) : Text :=
  dropEndWhile isBlank t

/-- Drops the blanks at both ends. -/
def trim (t : Text) : Text :=
  trimEnd (trimStart t)

/-- The maximal runs without blanks. -/
def words (t : Text) : List Text :=
  fields isBlank t

end Declutter.Text
