/-
**Control sequences.**

Some characters of a text are not shown on a terminal but steer it: single controls, and sequences
that begin with the escape character.  This module takes them out of a text, so that what a name or
a value holds cannot reach further than its own line.

Main definitions:

* `Text.Control.Mode` — where reading stands with respect to sequences;
* `Text.Control.shows`, `Text.Control.next` — whether a character is shown, and where reading stands
  behind it;
* `Text.Control.plain` — the part of a text that is shown.

Main results:

* `Text.Control.shows_of_mem_plain` — nothing but characters that are shown is left;
* `Text.Control.plain_eq_self` — a text of such characters stays as it is.
-/

set_option relaxedAutoImplicit false
set_option autoImplicit false

namespace DataSheet.Text.Control

/-! ### Single characters -/

/-- Where reading stands. -/
inductive Mode
  /-- Outside of sequences. -/
  | text
  /-- Behind the escape character. -/
  | escape
  /-- Behind the escape character and marks. -/
  | marked
  /-- In a control sequence. -/
  | control
  /-- At the start of a device string, before the string itself. -/
  | deviceStart
  /-- Among the parameters of a device string. -/
  | deviceParameters
  /-- Behind the marks of a device string. -/
  | deviceMarked
  /-- In a string for a device or a program. -/
  | string
  /-- In a command to the operating system. -/
  | command
  deriving DecidableEq

/-- The code of the character lies between these two, ends included. -/
def within (low high : Nat) (c : Char) : Bool := low ≤ c.toNat && c.toNat ≤ high

/-- The controls that lay a text out: tabulator, line feed, form feed and carriage return. -/
def isLayout (c : Char) : Bool := c == '\t' || c == '\n' || c == '\x0c' || c == '\r'

/-- The character is shown, or lays the text out, where it stands outside of sequences. -/
def isShown (c : Char) : Bool := (0x20 ≤ c.toNat && c != '\x7f') || isLayout c

/-- The character is shown.  Up to the string in it, a sequence lets the layout pass. -/
def shows : Mode → Char → Bool
  | .text, c => isShown c
  | .escape, c | .marked, c | .control, c => isLayout c
  | _, _ => false

/-- Where reading stands behind the escape character and `c`. -/
def afterEscape (c : Char) : Mode :=
  if within 0x20 0x2F c then .marked
  else if c = '[' then .control
  else if c = ']' then .command
  else if c = 'P' then .deviceStart
  else if c = 'X' ∨ c = '^' ∨ c = '_' then .string
  else if within 0x30 0x7E c then .text
  else .escape

/-- The byte `9C` ends a string, also where it is a part of a longer character. -/
def endsString (c : Char) : Bool := (String.utf8EncodeChar c).contains 0x9C

/-- Where reading stands behind a character that is not one of those that end or begin a sequence
wherever they stand. -/
def advance : Mode → Char → Mode
  | .text, _ => .text
  | .escape, c => afterEscape c
  | .marked, c => if within 0x30 0x7E c then .text else .marked
  | .control, c => if within 0x40 0x7E c then .text else .control
  | .deviceStart, c =>
    if within 0x20 0x2F c then .deviceMarked
    else if within 0x30 0x3F c then .deviceParameters
    else if within 0x40 0x7E c then .string
    else .deviceStart
  | .deviceParameters, c =>
    if within 0x20 0x2F c then .deviceMarked
    else if within 0x3C 0x7E c then .string
    else .deviceParameters
  | .deviceMarked, c => if within 0x30 0x7E c then .string else .deviceMarked
  | .string, c => if endsString c then .text else .string
  | .command, c => if c = '\x07' then .text else .command

/-- Where reading stands behind `c`.  Two controls cancel every sequence, and the escape character
begins a new one. -/
def next (m : Mode) (c : Char) : Mode :=
  if c = '\x18' ∨ c = '\x1a' then .text
  else if c = '\x1b' then .escape
  else advance m c

/-! ### Texts -/

/-- The characters that are shown.  Layout inside a sequence interrupts it: `visible` tells that the
character before was shown, and then all characters are taken for text up to one that is not shown,
where the sequence goes on.  A character outside of ASCII ends it. -/
def plainFrom (visible : Bool) (m : Mode) : List Char → List Char
  | [] => []
  | c :: s =>
    if shows (if visible then .text else m) c then
      c :: plainFrom true (if c.toNat < 0x80 then m else .text) s
    else plainFrom false (next m c) s

/-- The part of a text that is shown. -/
def plain (s : List Char) : List Char := plainFrom false .text s

theorem isShown_of_shows {m : Mode} {c : Char} (h : shows m c = true) : isShown c = true := by
  cases m <;> simp_all [shows, isShown]

theorem shows_of_mem_plainFrom {c : Char} (visible : Bool) (m : Mode) (s : List Char)
    (h : c ∈ plainFrom visible m s) : isShown c = true := by
  induction s generalizing visible m with
  | nil => simp [plainFrom] at h
  | cons d s ih =>
    by_cases hd : shows (if visible then .text else m) d = true
    · rw [plainFrom, if_pos hd] at h
      rcases List.mem_cons.1 h with rfl | h
      · exact isShown_of_shows hd
      · exact ih _ _ h
    · rw [plainFrom, if_neg hd] at h
      exact ih _ _ h

/-- Nothing but characters that are shown is left of a text. -/
theorem shows_of_mem_plain {c : Char} {s : List Char} (h : c ∈ plain s) : isShown c = true :=
  shows_of_mem_plainFrom false .text s h

theorem plainFrom_text (visible : Bool) (s : List Char) (h : ∀ c ∈ s, isShown c = true) :
    plainFrom visible .text s = s := by
  induction s generalizing visible with
  | nil => rfl
  | cons c s ih =>
    have hc : isShown c = true := h c List.mem_cons_self
    have hs : plainFrom true .text s = s := ih true fun d hd => h d (List.mem_cons_of_mem c hd)
    simp [plainFrom, shows, hc, hs]

/-- A text of characters that are shown stays as it is. -/
theorem plain_eq_self {s : List Char} (h : ∀ c ∈ s, isShown c = true) : plain s = s :=
  plainFrom_text false s h

example : plain "a\x07b\tc\x7f".toList = "ab\tc".toList := by decide +kernel
example : plain "\x1b[31mred\x1b[0m".toList = "red".toList := by decide +kernel
example : plain "\x1b]0;name\x07text".toList = "text".toList := by decide +kernel
example : plain "\x1b[3\t1mx".toList = "\t1mx".toList := by decide +kernel

end DataSheet.Text.Control
