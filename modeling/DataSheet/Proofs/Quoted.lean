/-
**Quoted text is read back.**

Reading a quoted text, a backslash with a letter or with a code in braces stands for one character,
and the first quote without a backslash before it ends the text.  Which characters are written as
codes depends on tables of characters, and the tables change with time.  So this module says how a
character may be written at all, and shows that reading takes every such text back, whatever the
tables say.

Main definitions:

* `Text.Quoted.Mode`, `Text.Quoted.read` — reading behind the opening quote;
* `Text.Quoted.literal?` — the text that a quoted text denotes, and what follows it;
* `Text.Quoted.Escaped`, `Text.Quoted.Inside` — how a character and a text may be written.

Main results:

* `Text.Quoted.read_of_escaped` — a character is taken back, and nothing behind it;
* `Text.Quoted.literal?_of_inside` — **a text is read back**, however it is written;
* `Text.Quoted.Inside.not_isControl` — no control stands inside the quotes;
* `Text.Quoted.inside_body` — quoting writes a text in one of these ways.
-/

import DataSheet.Proofs.Digits
import DataSheet.Text.Quoted
import Mathlib.Data.Nat.Digits.Defs

set_option relaxedAutoImplicit false
set_option autoImplicit false

namespace DataSheet.Text

/-! ### Controls -/

/-- The controls, the characters of the category `Cc`. -/
def isControl (c : Char) : Bool := c.toNat ≤ 0x1F || (0x7F ≤ c.toNat && c.toNat ≤ 0x9F)

/-- Controls are hidden. -/
theorem isHidden_of_isControl {c : Char} (h : isControl c) : isHidden c = true := by
  obtain ⟨ranges, hranges⟩ : ∃ r, unprintableRanges = (0x0, 0x1F) :: (0x7F, 0xA0) :: r := ⟨_, rfl⟩
  refine isHidden_of_isUnprintable ?_
  rw [isUnprintable, inRanges, hranges, List.any_cons, List.any_cons]
  simp only [isControl, Bool.or_eq_true, Bool.and_eq_true, decide_eq_true_eq] at h ⊢
  omega

theorem not_isControl_of_isDigit {base : Nat} {c : Char} (h : isDigit base c) :
    isControl c = false := by
  obtain ⟨d, hd⟩ := Option.isSome_iff_exists.1 h
  have hranges := ranges_of_digit? hd
  simp only [isControl, Bool.or_eq_false_iff, Bool.and_eq_false_iff, decide_eq_false_iff_not]
  omega

namespace Quoted

/-! ### Reading -/

/-- What is read next. -/
inductive Mode
  /-- A character, or the closing quote. -/
  | text
  /-- What follows a backslash. -/
  | escape
  /-- The brace before a code. -/
  | brace
  /-- A digit of a code, or the brace behind it.  So many digits are read, with this value. -/
  | code (value digits : Nat)

/-- The character that a letter stands for behind a backslash. -/
def letter? (c : Char) : Option Char :=
  if c = '"' ∨ c = '\'' ∨ c = '\\' then some c
  else if c = 't' then some '\t'
  else if c = 'r' then some '\r'
  else if c = 'n' then some '\n'
  else if c = '0' then some '\x00'
  else none

/-- The character with a code of one to six digits. -/
def ofCode? (value digits : Nat) : Option Char :=
  if 0 < digits ∧ digits ≤ 6 ∧ value.isValidChar then some (Char.ofNat value) else none

/-- A character, if there is one, before what is read behind it. -/
def push (c : Option Char) (read : Option (List Char × List Char)) :
    Option (List Char × List Char) :=
  match c, read with
  | some c, some (s, rest) => some (c :: s, rest)
  | _, _ => none

/-- The text up to the closing quote, and what follows the quote.  A carriage return does not stand
for itself. -/
def read : Mode → List Char → Option (List Char × List Char)
  | _, [] => none
  | .text, c :: s =>
    if c = '"' then some ([], s)
    else if c = '\\' then read .escape s
    else if c = '\r' then none
    else push (some c) (read .text s)
  | .escape, c :: s => if c = 'u' then read .brace s else push (letter? c) (read .text s)
  | .brace, c :: s => if c = '{' then read (.code 0 0) s else none
  | .code n k, c :: s =>
    if c = '}' then push (ofCode? n k) (read .text s)
    else
      match digit? 16 c with
      | some d => read (.code (16 * n + d) (k + 1)) s
      | none => none

/-- The text that a quoted text at the front denotes, and what follows it. -/
def literal? : List Char → Option (List Char × List Char)
  | '"' :: s => read .text s
  | _ => none

/-! ### Ways of writing -/

/-- The ways to write a character inside the quotes: as it is, unless it is a quote, a backslash or
a control; as a letter behind a backslash; as a code. -/
inductive Escaped (c : Char) : List Char → Prop
  | plain (hquote : c ≠ '"') (hbackslash : c ≠ '\\') (hcontrol : isControl c = false) :
      Escaped c [c]
  | letter {d : Char} (h : letter? d = some c) : Escaped c ['\\', d]
  | code : Escaped c (code c)

/-- The ways to write a text inside the quotes. -/
inductive Inside : List Char → List Char → Prop
  | nil : Inside [] []
  | cons {c : Char} {s e t : List Char} (h : Escaped c e) (hs : Inside s t) :
      Inside (c :: s) (e ++ t)

/-- The digits of a code are read one after the other. -/
theorem read_digits {n m k : Nat} {ds : List Char} (h : continueNumber? 16 n ds = some m)
    (s : List Char) : read (.code n k) (ds ++ s) = read (.code m (k + ds.length)) s := by
  induction ds generalizing n k with
  | nil =>
      cases h
      rfl
  | cons c ds ih =>
      have hc : c ≠ '}' := by
        rintro rfl
        cases h
      rw [continueNumber?] at h
      rw [List.cons_append, read, if_neg hc]
      split at h
      · cases h
      next d hd =>
        rw [hd]
        dsimp only
        rw [ih h, List.length_cons, Nat.add_right_comm, Nat.add_assoc]

theorem ofCode?_toDigits (c : Char) :
    ofCode? c.toNat (Nat.toDigits 16 c.toNat).length = some c := by
  have hvalid : c.toNat.isValidChar := c.valid
  have hlt : c.toNat < 16 ^ 6 := by
    rcases hvalid with h | ⟨-, h⟩ <;> omega
  have hpos : 0 < (Nat.toDigits 16 c.toNat).length :=
    List.length_pos_iff.2 Nat.toDigits_ne_nil
  have hlen := Nat.toDigits_length 16 c.toNat 6 (by omega) hlt
  rw [ofCode?, if_pos ⟨hpos, hlen, hvalid⟩, Char.ofNat_toNat]

/-- A code is read as its character. -/
theorem read_code (c : Char) (s : List Char) :
    read .text (code c ++ s) = push (some c) (read .text s) := by
  have hdigits := continueNumber?_toDigits (by omega : 1 < 16) (by omega) c.toNat
  change read (.code 0 0) (Nat.toDigits 16 c.toNat ++ ['}'] ++ s) = _
  rw [List.append_assoc, read_digits hdigits, Nat.zero_add, List.singleton_append, read,
    if_pos rfl, ofCode?_toDigits]

/-- **A character is taken back, and nothing behind it.** -/
theorem read_of_escaped {c : Char} {e : List Char} (h : Escaped c e) (s : List Char) :
    read .text (e ++ s) = push (some c) (read .text s) := by
  cases h with
  | plain hquote hbackslash hcontrol =>
      have hreturn : c ≠ '\r' := by
        rintro rfl
        cases hcontrol
      rw [List.singleton_append, read, if_neg hquote, if_neg hbackslash, if_neg hreturn]
  | @letter d h =>
      have hd : d ≠ 'u' := by
        rintro rfl
        cases h
      rw [← h]
      change read .escape (d :: s) = _
      rw [read, if_neg hd]
  | code => exact read_code c s

/-- Reading ends at the closing quote. -/
theorem read_of_inside {s t : List Char} (h : Inside s t) (rest : List Char) :
    read .text (t ++ '"' :: rest) = some (s, rest) := by
  induction h with
  | nil => rfl
  | cons h hs ih => rw [List.append_assoc, read_of_escaped h, ih, push]

/-- **A text is read back**, however it is written. -/
theorem literal?_of_inside {s t : List Char} (h : Inside s t) (rest : List Char) :
    literal? ('"' :: t ++ '"' :: rest) = some (s, rest) :=
  read_of_inside h rest

example : literal? "\"a\\\"b\\u{7f}\" c".toList = some ("a\"b\x7f".toList, " c".toList) := by decide

/-! ### Characters inside the quotes -/

/-- A control is no letter behind a backslash. -/
theorem letter?_of_isControl {d : Char} (h : isControl d) : letter? d = none := by
  have hne : ∀ e, isControl e = false → d ≠ e := by
    rintro e he rfl
    rw [h] at he
    cases he
  simp only [letter?, hne '"' rfl, hne '\'' rfl, hne '\\' rfl, hne 't' rfl, hne 'r' rfl,
    hne 'n' rfl, hne '0' rfl, or_self, if_false]

theorem not_isControl_of_mem_code {c d : Char} (h : d ∈ code c) : isControl d = false := by
  have hdigits := isDigit_of_continueNumber?
    (continueNumber?_toDigits (by omega : 1 < 16) (by omega) c.toNat)
  have hmark : ∀ d ∈ ['\\', 'u', '{'], isControl d = false := by simp [isControl]
  have hcode : code c = ['\\', 'u', '{'] ++ Nat.toDigits 16 c.toNat ++ ['}'] := rfl
  rw [hcode] at h
  rcases List.mem_append.1 h with h | h
  · rcases List.mem_append.1 h with h | h
    · exact hmark d h
    · exact not_isControl_of_isDigit (hdigits d h)
  · rw [List.mem_singleton.1 h]
    rfl

theorem Escaped.not_isControl {c : Char} {e : List Char} (h : Escaped c e) :
    ∀ d ∈ e, isControl d = false := by
  cases h with
  | plain hquote hbackslash hcontrol => simpa using hcontrol
  | @letter d h =>
      have hd : isControl d = false := by
        cases hd : isControl d with
        | false => rfl
        | true => cases h.symm.trans (letter?_of_isControl hd)
      simpa using ⟨(rfl : isControl '\\' = false), hd⟩
  | code => exact fun d => not_isControl_of_mem_code

/-- No control stands inside the quotes. -/
theorem Inside.not_isControl {s t : List Char} (h : Inside s t) :
    ∀ c ∈ t, isControl c = false := by
  induction h with
  | nil => simp
  | cons h hs ih =>
      intro d hd
      rcases List.mem_append.1 hd with hd | hd
      · exact h.not_isControl d hd
      · exact ih d hd

/-! ### Quoting -/

theorem escaped_escape (c : Char) : Escaped c (escape c) := by
  fun_cases escape c with
  | case7 => exact .code
  | case8 hquote hbackslash _ _ _ _ hhidden =>
      have hcontrol : isControl c = false := by
        cases hc : isControl c with
        | false => rfl
        | true => exact absurd (isHidden_of_isControl hc) hhidden
      exact .plain hquote hbackslash hcontrol
  | _ =>
      -- a character with a letter of its own
      subst_vars
      exact .letter rfl

/-- Quoting writes a text in one of these ways. -/
theorem inside_body (s : List Char) : Inside s (body s) := by
  induction s with
  | nil => exact .nil
  | cons c s ih => exact .cons (escaped_escape c) ih

end Quoted

end DataSheet.Text
