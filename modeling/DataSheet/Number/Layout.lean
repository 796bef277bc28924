/-
**How numbers are laid out.**

A number is written with the digits of its shortest decimal.  Where the point goes is a matter of
layout: numbers of middling size are written positionally and keep at least one digit behind the
point, all others with an exponent.

Main definitions:

* `Layout` — the choices of a layout;
* `Layout.answers`, `Layout.interchange` — the layout of declarations and answers, and the one of
  JSON texts;
* `Layout.write` — a number in a layout.
-/

import DataSheet.Number.Shortest

set_option relaxedAutoImplicit false
set_option autoImplicit false

namespace DataSheet.Binary64

/-- Where positional writing begins and ends, and how exponents look.  The scale of a number is the
exponent of its first digit. -/
structure Layout where
  /-- The least scale that is written positionally. -/
  leastScale : Int
  /-- The least scale above those. -/
  scaleBound : Int
  /-- An exponent that is not negative gets a plus sign. -/
  plus : Bool
  /-- What is done with two equally near decimals. -/
  tie : Shortest.Tie

namespace Layout

/-- Declarations and answers write `0.0001` and `1e-5`, `1000000000000000.0` and `1e16`. -/
def answers : Layout := ⟨-4, 16, false, .up⟩

/-- JSON texts write `0.00001` and `1e-6`, `1000000000000000.0` and `1e+16`. -/
def interchange : Layout := ⟨-5, 16, true, .even⟩

/-- The decimal `digits · 10 ^ exponent` without an exponent. -/
def positional (digits : List Char) (exponent : Int) : List Char :=
  let scale := digits.length + exponent
  if 0 ≤ exponent then digits ++ List.replicate exponent.toNat '0' ++ ['.', '0']
  else if 0 < scale then digits.take scale.toNat ++ '.' :: digits.drop scale.toNat
  else '0' :: '.' :: List.replicate (-scale).toNat '0' ++ digits

/-- The decimal with one digit before the point, none behind it if there are no more, and the power
of ten by which to multiply. -/
def exponential (plus : Bool) (digits : List Char) (exponent : Int) : List Char :=
  let scale := digits.length + exponent - 1
  let sign := if scale < 0 then ['-'] else if plus then ['+'] else []
  let fraction := if digits.length ≤ 1 then [] else '.' :: digits.drop 1
  digits.take 1 ++ fraction ++ 'e' :: sign ++ Nat.toDigits 10 scale.natAbs

/-- A number in the layout `l`. -/
def write (l : Layout) : Binary64 → List Char
  | .nan => ['N', 'a', 'N']
  | .infinite negative => (if negative then ['-'] else []) ++ ['i', 'n', 'f']
  | .finite negative units =>
    let sign := if negative then ['-'] else []
    if units = 0 then sign ++ ['0', '.', '0']
    else
      let d := Shortest.ofUnits l.tie units
      let digits := Nat.toDigits 10 d.digits
      let scale := digits.length + d.exponent - 1
      sign ++
        if l.leastScale ≤ scale ∧ scale < l.scaleBound then positional digits d.exponent
        else exponential l.plus digits d.exponent

end Layout

/-- The number as declarations and answers show it. -/
def text (x : Binary64) : String := String.ofList (Layout.answers.write x)

example : text one = "1.0" := by decide +kernel
example : text (ofDecimal true 12345 (-1)) = "-1234.5" := by decide +kernel
example : text (ofDecimal false 1234 (-8)) = "1.234e-5" := by decide +kernel
example : text (ofDecimal false 1 16) = "1e16" := by decide +kernel
example : Layout.interchange.write (ofDecimal false 15 (-8)) = "1.5e-7".toList := by decide +kernel

end DataSheet.Binary64
