/-
**Digits of whole numbers.**

Addresses are written in hexadecimal, padded with zeros; counts in decimal.  Reading goes the other
way: a non-empty run of digits of one base has a value, any other text has none.

Main definitions:

* `Text.digit?` — the value of a digit, of either letter case;
* `Text.number?` — the value of a run of digits;
* `Text.lowerHex`, `Text.upperHex` — a number in hexadecimal, at least so many digits wide;
* `Text.decimal` — a number in decimal, at least so many digits wide.
-/

set_option relaxedAutoImplicit false
set_option autoImplicit false

namespace DataSheet.Text

/-! ### Reading -/

/-- The value of `c` as a digit of base `base`, at most sixteen. -/
def digit? (base : Nat) (c : Char) : Option Nat :=
  let n :=
    if '0' ≤ c ∧ c ≤ '9' then c.toNat - '0'.toNat
    else if 'a' ≤ c ∧ c ≤ 'f' then c.toNat - 'a'.toNat + 10
    else if 'A' ≤ c ∧ c ≤ 'F' then c.toNat - 'A'.toNat + 10
    else base
  if n < base then some n else none

/-- Whether `c` is a digit of base `base`. -/
def isDigit (base : Nat) (c : Char) : Bool := (digit? base c).isSome

/-- The value of the digits `s` written behind digits of value `n`. -/
def continueNumber? (base : Nat) (n : Nat) : List Char → Option Nat
  | [] => some n
  | c :: s =>
    match digit? base c with
    | none => none
    | some d => continueNumber? base (base * n + d) s

/-- The value of a non-empty run of digits of base `base`. -/
def number? (base : Nat) (s : List Char) : Option Nat :=
  if s = [] then none else continueNumber? base 0 s

theorem digit?_lt {base : Nat} {c : Char} {d : Nat} (h : digit? base c = some d) : d < base := by
  simp only [digit?] at h
  grind

/-! ### Writing -/

/-- `n` in lower-case hexadecimal, at least `width` digits wide. -/
def lowerHex (width n : Nat) : String :=
  String.ofList ((Nat.toDigits 16 n).leftpad width '0')

/-- `n` in upper-case hexadecimal, at least `width` digits wide. -/
def upperHex (width n : Nat) : String :=
  String.ofList (((Nat.toDigits 16 n).map Char.toUpper).leftpad width '0')

/-- `n` in decimal, at least `width` digits wide. -/
def decimal (width n : Nat) : String :=
  String.ofList ((Nat.toDigits 10 n).leftpad width '0')

example : upperHex 4 0x1A = "001A" := by decide
example : lowerHex 1 0 = "0" := by decide
example : number? 16 ['f', 'F'] = some 255 := by decide

end DataSheet.Text
