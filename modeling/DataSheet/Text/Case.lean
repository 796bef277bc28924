/-
**Letter case.**

Keys, section keywords and literals are compared without regard to the case of ASCII letters; all
other characters stand for themselves.

Main definitions:

* `Text.lower`, `Text.upper` — a text with its ASCII letters in one case;
* `Text.sameFolded` — two texts that differ at most in the case of ASCII letters.
-/

set_option relaxedAutoImplicit false
set_option autoImplicit false

namespace DataSheet.Text

/-- The text with its ASCII letters in lower case. -/
def lower (s : List Char) : List Char := s.map Char.toLower

/-- The text with its ASCII letters in upper case. -/
def upper (s : List Char) : List Char := s.map Char.toUpper

/-- The two texts differ at most in the case of ASCII letters. -/
def sameFolded (s t : List Char) : Bool := lower s == lower t

@[simp] theorem length_lower (s : List Char) : (lower s).length = s.length := by simp [lower]

theorem sameFolded_iff (s t : List Char) : sameFolded s t = true ↔ lower s = lower t := by
  simp [sameFolded]

end DataSheet.Text
