/-
**Access to a variable.**

Main definitions:

* `AccessType` — who may do what with a variable;
* `AccessType.ofText?` — the spellings of a data sheet, of any letter case and with blanks around;
* `AccessType.text` — the plain spelling.

Main results:

* `AccessType.ofText?_text` — the plain spelling is read back.
-/

import DataSheet.Text.Blank
import DataSheet.Text.Case

set_option relaxedAutoImplicit false
set_option autoImplicit false

namespace DataSheet

/-- What is allowed with a variable. -/
inductive AccessType
  | readWrite
  | readOnly
  | writeOnly
  | constant
  deriving DecidableEq

namespace AccessType

/-- The plain spelling. -/
def text : AccessType → String
  | readWrite => "rw"
  | readOnly => "ro"
  | writeOnly => "wo"
  | constant => "const"

/-- The access that a data sheet spells out.  Read and write access may come with a hint at the
direction of process data, which has no meaning here. -/
def ofText? (s : String) : Option AccessType :=
  let word := String.ofList (Text.lower (Text.trim s.toList))
  if word = "rw" ∨ word = "rww" ∨ word = "rwr" then some readWrite
  else if word = "ro" then some readOnly
  else if word = "wo" then some writeOnly
  else if word = "const" then some constant
  else none

@[simp] theorem ofText?_text (a : AccessType) : ofText? a.text = some a := by
  cases a <;> decide

end AccessType

end DataSheet
