/-
**Blank characters.**

A character is blank if Unicode gives it the property `White_Space`.  Lines, names, keys and values
of a data sheet are taken without the blanks around them.

Main definitions:

* `Text.isBlank` — the class of characters;
* `Text.trim` — a text without the blanks at its ends.
-/

set_option relaxedAutoImplicit false
set_option autoImplicit false

namespace DataSheet.Text

/-- The characters of the Unicode property `White_Space`. -/
def isBlank (c : Char) : Bool :=
  let n := c.toNat
  (0x09 ≤ n && n ≤ 0x0D) || n == 0x20 || n == 0x85 || n == 0xA0 || n == 0x1680 ||
    (0x2000 ≤ n && n ≤ 0x200A) || n == 0x2028 || n == 0x2029 || n == 0x202F || n == 0x205F ||
    n == 0x3000

/-- The text without the blanks at its end. -/
def trimEnd (s : List Char) : List Char := (s.reverse.dropWhile isBlank).reverse

/-- The text without the blanks at either end. -/
def trim (s : List Char) : List Char := trimEnd (s.dropWhile isBlank)

end DataSheet.Text
