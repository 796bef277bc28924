/-
**Quoted text.**

A text is written between double quotes.  The quote and the backslash get a backslash before them,
four controls have a letter of their own, and a character that is not seen for itself is written as
its code in braces.  Everything else stands as it is.

Main definitions:

* `Text.Quoted.escape` — one character inside the quotes;
* `Text.Quoted.body` — a text inside the quotes;
* `Text.Quoted.encode` — a text with its quotes.
-/

import DataSheet.Text.Printable

set_option relaxedAutoImplicit false
set_option autoImplicit false

namespace DataSheet.Text.Quoted

/-- The code of `c` in lower-case hexadecimal between braces. -/
def code (c : Char) : List Char :=
  '\\' :: 'u' :: '{' :: Nat.toDigits 16 c.toNat ++ ['}']

/-- How `c` is written inside the quotes. -/
def escape (c : Char) : List Char :=
  if c = '"' then ['\\', '"']
  else if c = '\\' then ['\\', '\\']
  else if c = '\t' then ['\\', 't']
  else if c = '\r' then ['\\', 'r']
  else if c = '\n' then ['\\', 'n']
  else if c = '\x00' then ['\\', '0']
  else if isHidden c then code c
  else [c]

/-- The text inside the quotes. -/
def body (s : List Char) : List Char := s.flatMap escape

/-- The text with its quotes. -/
def encode (s : List Char) : List Char := '"' :: body s ++ ['"']

end DataSheet.Text.Quoted
