/-
**The shortest decimal of a number.**

Between the midpoints to its two neighbours lie the reals that round to a number.  Of the decimals
among them the shortest is the one on the coarsest grid of powers of ten; where both neighbours of
the number on that grid qualify, the nearer one is taken, and an exact tie is decided by rule.

Main definitions:

* `Shortest.Tie` — which of two equally near decimals is taken;
* `Shortest.holds` — a decimal rounds to the number;
* `Shortest.ofUnits` — the shortest decimal of a finite number.
-/

import DataSheet.Number.Binary64

set_option relaxedAutoImplicit false
set_option autoImplicit false

namespace DataSheet.Binary64.Shortest

/-- Of two equally near decimals one is taken: the greater, or the one whose last digit is even. -/
inductive Tie
  | up
  | even
  deriving DecidableEq

/-- `digits · 10 ^ exponent`. -/
structure Decimal where
  digits : Nat
  exponent : Int
  deriving DecidableEq

/-- The decimal as a quotient of whole numbers. -/
def Decimal.ratio (d : Decimal) : Nat × Nat :=
  match d.exponent with
  | .ofNat e => (d.digits * Nat.pow 10 e, 1)
  | .negSucc e => (d.digits, Nat.pow 10 (e + 1))

/-- Quarters of a unit from the number down to the midpoint below it.  Below a power of two the
numbers lie twice as dense as above it. -/
def quartersBelow (units : Nat) : Nat :=
  let q := spacing units
  if 0 < q ∧ units = Nat.pow 2 (q + 52) then Nat.pow 2 q else 2 * Nat.pow 2 q

/-- Quarters of a unit from the number up to the midpoint above it. -/
def quartersAbove (units : Nat) : Nat := 2 * Nat.pow 2 (spacing units)

/-- The decimal lies between the midpoints around the number.  The midpoints themselves round to it
if its significand is even. -/
def holds (units : Nat) (d : Decimal) : Bool :=
  let (num, den) := d.ratio
  let low := (4 * units - quartersBelow units) * den
  let high := (4 * units + quartersAbove units) * den
  let x := 4 * num * unitsPerOne
  if units / Nat.pow 2 (spacing units) % 2 = 0 then low ≤ x && x ≤ high else low < x && x < high

/-- The greatest `c` with `c · 10 ^ exponent` not above the number. -/
def gridFloor (units : Nat) (exponent : Int) : Nat :=
  match exponent with
  | .ofNat e => units / (unitsPerOne * Nat.pow 10 e)
  | .negSucc e => units * Nat.pow 10 (e + 1) / unitsPerOne

/-- Twice the remainder above the greatest multiple of `10 ^ exponent`, against that power: whether
the number lies below, at, or above the middle between two multiples. -/
def gridSide (units : Nat) (exponent : Int) : Ordering :=
  match exponent with
  | .ofNat e => compare (2 * (units % (unitsPerOne * Nat.pow 10 e))) (unitsPerOne * Nat.pow 10 e)
  | .negSucc e => compare (2 * (units * Nat.pow 10 (e + 1) % unitsPerOne)) unitsPerOne

/-- The decimal with this exponent that is nearest to the number among those that round to it. -/
def onGrid? (tie : Tie) (units : Nat) (exponent : Int) : Option Decimal :=
  let c := gridFloor units exponent
  let below : Decimal := ⟨c, exponent⟩
  let above : Decimal := ⟨c + 1, exponent⟩
  match holds units below, holds units above with
  | false, false => none
  | true, false => some below
  | false, true => some above
  | true, true =>
    match gridSide units exponent with
    | .lt => some below
    | .gt => some above
    | .eq =>
      match tie with
      | .up => some above
      | .even => if c % 2 = 0 then some below else some above

/-- The first decimal found on ever finer grids from `10 ^ exponent` on, `grids` of them.  Behind
the last grid stands the number itself, which a decimal can express. -/
def search (tie : Tie) (units : Nat) : Nat → Int → Decimal
  | 0, _ => ⟨units * Nat.pow 5 1074, -1074⟩
  | grids + 1, exponent =>
    match onGrid? tie units exponent with
    | some d => d
    | none => search tie units grids (exponent - 1)

/-- An exponent whose power of ten is not below the number. -/
def topExponent (units : Nat) : Int :=
  let b : Int := units.log2 - 1073
  if 0 ≤ b then b * 4 / 13 + 1 else -(-b * 3 / 10)

/-- The shortest decimal that rounds to the number. -/
def ofUnits (tie : Tie) (units : Nat) : Decimal :=
  search tie units 64 (topExponent units)

example : ofUnits .up unitsPerOne = ⟨1, 0⟩ := by decide +kernel
example : ofUnits .even (unitsPerOne / 8) = ⟨125, -3⟩ := by decide +kernel
example : ofUnits .up 1 = ⟨5, -324⟩ := by decide +kernel

end DataSheet.Binary64.Shortest
