import BundleLint.Text.CodePoint

/-!
# Blank characters

The blank characters of text and the trimming that drops them. The set is Unicode white space
together with the four information separators, and it leaves out the zero-width characters.
-/

namespace BundleLint.Text

/-- Membership in the blank characters. -/
def isBlank (c : Char) : Bool :=
  let n := c.toNat
  (9 ≤ n && n ≤ 13) || (28 ≤ n && n ≤ 32) || n == 0x85 || n == 0xA0 || n == 0x1680 ||
    (0x2000 ≤ n && n ≤ 0x200A) || n == 0x2028 || n == 0x2029 || n == 0x202F || n == 0x205F ||
    n == 0x3000

/-- A list without the last elements that satisfy a condition. -/
def dropLastWhile {α : Type} (condition : α → Bool) (list : List α) : List α :=
  (list.reverse.dropWhile condition).reverse

/-- A line without its trailing blanks. -/
def trimRight (line : List Char) : List Char :=
  dropLastWhile isBlank line

/-- Text without the blanks at either end. -/
def trim (text : List CodePoint) : List CodePoint :=
  dropLastWhile (·.satisfies isBlank) (text.dropWhile (·.satisfies isBlank))

end BundleLint.Text
