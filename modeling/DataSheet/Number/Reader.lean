/-
**Reading numbers.**

A number is written as digits with at most one point among or around them, an optional sign before
and an optional power of ten behind, or as one of the words for an infinity or for no number, in any
letter case.

Main definitions:

* `Binary64.decimal?` — the digits and the exponent of an unsigned decimal;
* `Binary64.ofText?` — the number nearest to what a text says.
-/

import DataSheet.Number.Binary64
import DataSheet.Text.Case
import DataSheet.Text.Digits

set_option relaxedAutoImplicit false
set_option autoImplicit false

namespace DataSheet.Binary64

/-- The digits at the front of a text, and the rest. -/
def spanDigits (s : List Char) : List Char × List Char := s.span (Text.isDigit 10)

/-- The power of ten behind a decimal: nothing, or `e` and a whole number. -/
def powerOfTen? : List Char → Option Int
  | [] => some 0
  | c :: s =>
    if c = 'e' ∨ c = 'E' then
      match s with
      | '-' :: s => (Text.number? 10 s).map fun n => -(n : Int)
      | '+' :: s => (Text.number? 10 s).map fun n => (n : Int)
      | s => (Text.number? 10 s).map fun n => (n : Int)
    else none

/-- What stands behind the point, if there is one, and the rest. -/
def spanFraction : List Char → List Char × List Char
  | '.' :: s => spanDigits s
  | s => ([], s)

/-- The digits and the exponent of an unsigned decimal with at least one digit. -/
def decimal? (s : List Char) : Option (Nat × Int) :=
  let (whole, s) := spanDigits s
  let (fraction, s) := spanFraction s
  match Text.number? 10 (whole ++ fraction), powerOfTen? s with
  | some digits, some e => some (digits, e - fraction.length)
  | _, _ => none

/-- The number that an unsigned text says, with the given sign. -/
def unsigned? (negative : Bool) (s : List Char) : Option Binary64 :=
  let word := Text.lower s
  if word = "inf".toList ∨ word = "infinity".toList then some (.infinite negative)
  else if word = "nan".toList then some .nan
  else (decimal? s).map fun (digits, e) => ofDecimal negative digits e

/-- The number nearest to what the text says. -/
def ofText? : List Char → Option Binary64
  | '-' :: s => unsigned? true s
  | '+' :: s => unsigned? false s
  | s => unsigned? false s

example : ofText? "1".toList = some one := by decide +kernel
example : ofText? "+.5e0".toList = some (.finite false (unitsPerOne / 2)) := by decide +kernel
example : ofText? "-Infinity".toList = some (.infinite true) := by decide
example : ofText? "1e".toList = none := by decide
example : ofText? ".".toList = none := by decide

end DataSheet.Binary64
