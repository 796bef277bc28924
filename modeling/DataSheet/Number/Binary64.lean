/-
**Numbers of the 64-bit binary format.**

Every finite number of the format is a whole multiple of `2⁻¹⁰⁷⁴`, the distance between its smallest
numbers.  A finite number is therefore kept as the count of these units, and rounding is a question
about whole numbers.

Main definitions:

* `Binary64` — a finite number, an infinity, or the one value that is no number;
* `Binary64.nearest` — the number nearest to a quotient, a tie going to the even significand;
* `Binary64.ofDecimal` — the number nearest to a decimal;
* `Binary64.same` — numerical equality: the zeros are the same, what is no number is nothing's same;
* `Binary64.fitsBinary32` — whether rounding to the 32-bit format stays finite.
-/

set_option relaxedAutoImplicit false
set_option autoImplicit false

namespace DataSheet

/-- A number of the 64-bit binary format.  A finite one counts units of `2⁻¹⁰⁷⁴`. -/
inductive Binary64
  | finite (negative : Bool) (units : Nat)
  | infinite (negative : Bool)
  | nan
  deriving DecidableEq

namespace Binary64

/-- The units in one. -/
def unitsPerOne : Nat := Nat.pow 2 1074

/-- The finite numbers count fewer units than this. -/
def unitsBound : Nat := Nat.pow 2 2098

/-- One. -/
def one : Binary64 := .finite false unitsPerOne

/-- Around `units` the numbers lie `2 ^ spacing units` units apart. -/
def spacing (units : Nat) : Nat := units.log2 - 52

/-- The whole number nearest to `num / den`, a tie going to the even one. -/
def roundDiv (num den : Nat) : Nat :=
  let q := num / den
  let r := num % den
  if 2 * r < den then q else if den < 2 * r then q + 1 else q + q % 2

/-- The number nearest to `num / den`, with the given sign. -/
def nearest (negative : Bool) (num den : Nat) : Binary64 :=
  let scaled := num * unitsPerOne
  let step := Nat.pow 2 (spacing (scaled / den))
  let units := roundDiv scaled (den * step) * step
  if units < unitsBound then .finite negative units else .infinite negative

/-- A decimal with this exponent or a greater one overflows, unless it is zero. -/
def overflowExponent : Nat := 400

/-- The number nearest to `digits · 10 ^ exponent`, with the given sign.  Powers of ten that cannot
matter are not computed: above they lead to an infinity, and below, where even all the digits
together stay under `10⁻⁴⁰⁰`, to zero. -/
def ofDecimal (negative : Bool) (digits : Nat) (exponent : Int) : Binary64 :=
  match exponent with
  | .ofNat e =>
    if digits = 0 then .finite negative 0
    else if overflowExponent ≤ e then .infinite negative
    else nearest negative (digits * Nat.pow 10 e) 1
  | .negSucc e =>
    if digits.log2 / 3 + overflowExponent ≤ e then .finite negative 0
    else nearest negative digits (Nat.pow 10 (e + 1))

/-- Neither infinite nor without value. -/
def isFinite : Binary64 → Bool
  | .finite _ _ => true
  | _ => false

/-- Equality of values.  The two zeros are equal, and what is no number equals nothing. -/
def same : Binary64 → Binary64 → Bool
  | .finite n u, .finite n' u' => u == u' && (n == n' || u == 0)
  | .infinite n, .infinite n' => n == n'
  | _, _ => false

/-- Rounding to the 32-bit format gives a finite number: the magnitude lies below the middle between
the greatest number of that format and the power of two after it. -/
def fitsBinary32 : Binary64 → Bool
  | .finite _ units => units < (Nat.pow 2 128 - Nat.pow 2 103) * unitsPerOne
  | _ => false

theorem isFinite_of_fitsBinary32 {x : Binary64} (h : x.fitsBinary32 = true) :
    x.isFinite = true := by
  cases x <;> simp_all [fitsBinary32, isFinite]

example : ofDecimal false 1 0 = one := by decide +kernel
example : ofDecimal false 1 (-400) = .finite false 0 := by decide +kernel

end Binary64

end DataSheet
