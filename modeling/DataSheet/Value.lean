/-
**Values.**

A variable may carry limits, a default and a configured value.  Each is a typed value; which kind it
has follows from the data type of the variable.

Main definitions:

* `Value` — a typed value;
* `Value.int?` — the whole number that a value stands for;
* `Value.same` — equality of values, numerical for floating-point ones.
-/

import DataSheet.Number.Binary64

set_option relaxedAutoImplicit false
set_option autoImplicit false

namespace DataSheet

/-- A typed value. -/
inductive Value
  | boolean (b : Bool)
  | signed (n : Int64)
  | unsigned (n : UInt64)
  | float (x : Binary64)
  | text (s : String)
  deriving DecidableEq

namespace Value

/-- The whole number that a truth value or an integer stands for. -/
def int? : Value → Option Int
  | boolean b => some b.toNat
  | signed n => some n.toInt
  | unsigned n => some n.toNat
  | float _ | text _ => none

/-- Equality within one kind of value. -/
def same : Value → Value → Bool
  | boolean a, boolean b => a == b
  | signed a, signed b => a == b
  | unsigned a, unsigned b => a == b
  | float a, float b => a.same b
  | text a, text b => a == b
  | _, _ => false

end Value

end DataSheet
