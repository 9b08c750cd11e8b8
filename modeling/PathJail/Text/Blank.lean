import PathJail.Text.Basic

/-!
# White space

The 25 characters with the Unicode property of that name, and a text without them at its ends.
-/

namespace PathJail.Text

/-- White space: the ASCII blanks, the next-line character, and the spaces and separators of other
scripts. -/
def isBlank (c : Char) : Bool :=
  let n := c.toNat
  (0x09 ≤ n && n ≤ 0x0d) || n = 0x20 || n = 0x85 || n = 0xa0 || n = 0x1680
    || (0x2000 ≤ n && n ≤ 0x200a) || n = 0x2028 || n = 0x2029 || n = 0x202f || n = 0x205f
    || n = 0x3000

/-- The text without white space at either end. -/
def trim (t : Text) : Text := ((t.dropWhile isBlank).reverse.dropWhile isBlank).reverse

end PathJail.Text
