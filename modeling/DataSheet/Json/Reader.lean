/-
**Reading parts of JSON texts.**

Settings are read from a JSON text in one go: a text is taken from the left, what is not asked for
is skipped, and the first thing that does not fit ends the reading.  Three kinds of such things are
told apart: a text that is no JSON, a text that ends too early, and JSON of another shape than the
one asked for.

Main definitions:

* `Json.Unfit` — why a text cannot be read;
* `Json.readString` — the string at the front of a text;
* `Json.skipValue` — the text behind any value;
* `Json.unexpected` — what is wrong with a value that is not a string.
-/

import DataSheet.Number.Binary64
import DataSheet.Text.Digits

set_option relaxedAutoImplicit false
set_option autoImplicit false

namespace DataSheet.Json

/-- Why a text cannot be read. -/
inductive Unfit
  /-- The text is no JSON. -/
  | illFormed
  /-- The text ends too early. -/
  | cutShort
  /-- The text has another shape. -/
  | mismatched
  deriving DecidableEq

/-- The outcome of reading at the front of a text: what was read, and the text behind it. -/
abbrev Front (α : Type) := Except Unfit (α × List Char)

/-- The characters that may stand between tokens. -/
def isSpace (c : Char) : Bool := c == ' ' || c == '\n' || c == '\t' || c == '\r'

/-- The text without space at its front. -/
def skipSpace (s : List Char) : List Char := s.dropWhile isSpace

/-- The text behind a word. -/
def skipWord : List Char → List Char → Except Unfit (List Char)
  | [], s => .ok s
  | _ :: _, [] => .error .cutShort
  | w :: ws, c :: s => if w = c then skipWord ws s else .error .illFormed

/-! ### Strings -/

/-- Where reading stands inside a string. -/
inductive Spot
  | plain
  /-- Behind a backslash. -/
  | escape
  /-- Among the four digits of a code, of which some are read.  The code may be the second half of a
  character whose first half stands before it. -/
  | code (high : Option Nat) (digits value : Nat)
  /-- Behind the first half of a character. -/
  | half (high : Nat)
  /-- Behind the first half of a character and a backslash. -/
  | halfEscape (high : Nat)
  deriving DecidableEq

/-- The character that a letter behind a backslash stands for. -/
def letter? (c : Char) : Option Char :=
  if c = '"' ∨ c = '\\' ∨ c = '/' then some c
  else if c = 'b' then some '\x08'
  else if c = 'f' then some '\x0c'
  else if c = 'n' then some '\n'
  else if c = 'r' then some '\r'
  else if c = 't' then some '\t'
  else none

/-- The code is the first half of a character. -/
def isHigh (n : Nat) : Bool := 0xD800 ≤ n && n < 0xDC00

/-- The code is the second half of a character. -/
def isLow (n : Nat) : Bool := 0xDC00 ≤ n && n < 0xE000

/-- The character of two halves. -/
def joinHalves (high low : Nat) : Char :=
  Char.ofNat (0x10000 + (high - 0xD800) * 0x400 + (low - 0xDC00))

/-- What follows a complete code: a character, or the wait for a second half.  Where strings are
skipped, codes are not looked at. -/
def afterCode (strict : Bool) (high : Option Nat) (n : Nat) : Except Unfit (Spot × List Char) :=
  if !strict then .ok (.plain, [])
  else
    match high with
    | some h => if isLow n then .ok (.plain, [joinHalves h n]) else .error .illFormed
    | none =>
      if isLow n then .error .illFormed
      else if isHigh n then .ok (.half n, [])
      else .ok (.plain, [Char.ofNat n])

/-- What is wrong where `c` stands in the place of a code's digit: whether the code is bad or cut
off depends on the number of bytes that are left for it. -/
def badDigit (digits : Nat) (c : Char) (s : List Char) : Unfit :=
  if digits + (String.ofList ((c :: s).take 4)).utf8ByteSize < 4 then .cutShort else .illFormed

/-- The string up to the next quote, and the text behind that.  `read` is what was read so far, in
reverse. -/
def readStringFrom (strict : Bool) (spot : Spot) (read : List Char) :
    List Char → Front (List Char)
  | [] => .error .cutShort
  | c :: s =>
    match spot with
    | .plain =>
      if c = '"' then .ok (read.reverse, s)
      else if c = '\\' then readStringFrom strict .escape read s
      else if c.toNat < 0x20 then .error .illFormed
      else readStringFrom strict .plain (c :: read) s
    | .escape =>
      if c = 'u' then readStringFrom strict (.code none 0 0) read s
      else
        match letter? c with
        | some d => readStringFrom strict .plain (d :: read) s
        | none => .error .illFormed
    | .code high digits value =>
      match Text.digit? 16 c with
      | none => .error (badDigit digits c s)
      | some d =>
        if digits < 3 then readStringFrom strict (.code high (digits + 1) (16 * value + d)) read s
        else
          match afterCode strict high (16 * value + d) with
          | .error e => .error e
          | .ok (spot, cs) => readStringFrom strict spot (cs ++ read) s
    | .half h =>
      if c = '\\' then readStringFrom strict (.halfEscape h) read s else .error .illFormed
    | .halfEscape h =>
      if c = 'u' then readStringFrom strict (.code (some h) 0 0) read s else .error .illFormed

/-- The string behind an opening quote. -/
def readString (s : List Char) : Front String :=
  (readStringFrom true .plain [] s).map fun (cs, rest) => (String.ofList cs, rest)

/-- The text behind a string whose opening quote is taken. -/
def skipString (s : List Char) : Except Unfit (List Char) :=
  (readStringFrom false .plain [] s).map Prod.snd

/-! ### Numbers -/

/-- The significand of a number and the power of ten by which it is to be multiplied. -/
structure Numeral where
  significand : Nat
  exponent : Int
  /-- The significand is full: it takes no more digits. -/
  full : Bool

/-- A significand has at most 64 bits. -/
def significandBound : Nat := UInt64.size

/-- A numeral with one more digit before the point.  Digits for which there is no room still count
for the exponent. -/
def Numeral.whole (n : Numeral) (digit : Nat) : Numeral :=
  if !n.full && n.significand * 10 + digit < significandBound then
    { n with significand := n.significand * 10 + digit }
  else { n with exponent := n.exponent + 1, full := true }

/-- A numeral with one more digit behind the point.  Digits for which there is no room are
dropped. -/
def Numeral.fraction (n : Numeral) (digit : Nat) : Numeral :=
  if !n.full && n.significand * 10 + digit < significandBound then
    { n with significand := n.significand * 10 + digit, exponent := n.exponent - 1 }
  else { n with full := true }

/-- The number that is found when the significand and the power of ten are each rounded and then
multiplied is too great for the format. -/
def Numeral.overflows (n : Numeral) : Bool :=
  n.significand != 0 &&
    match n.exponent with
    | .negSucc _ => false
    | .ofNat e =>
      if 308 < e then true
      else
        match Binary64.nearest false n.significand 1, Binary64.nearest false (Nat.pow 10 e) 1 with
        | .finite _ a, .finite _ b =>
          !(Binary64.nearest false (a * b) (Binary64.unitsPerOne * Binary64.unitsPerOne)).isFinite
        | _, _ => true

/-- The values of the digits at the front of a text, and the text behind them. -/
def spanDigits (s : List Char) : List Nat × List Char :=
  let (ds, rest) := s.span (Text.isDigit 10)
  (ds.filterMap (Text.digit? 10), rest)

/-- The digits before the point, and the text behind them.  A leading zero stands alone. -/
def readWhole (s : List Char) : Front (List Nat) :=
  match spanDigits s with
  | ([], []) => .error .cutShort
  | ([], _ :: _) => .error .illFormed
  | (0 :: _ :: _, _) => .error .illFormed
  | (ds, rest) => .ok (ds, rest)

/-- The digits behind the point, if there is one, and the text behind them. -/
def readFraction : List Char → Front (List Nat)
  | '.' :: s =>
    match spanDigits s with
    | ([], []) => .error .cutShort
    | ([], _ :: _) => .error .illFormed
    | (ds, rest) => .ok (ds, rest)
  | s => .ok ([], s)

/-- The exponent, if there is one, and the text behind it. -/
def readExponent : List Char → Front Int
  | [] => .ok (0, [])
  | c :: s =>
    if c = 'e' ∨ c = 'E' then
      let (negative, s) :=
        match s with
        | '-' :: s => (true, s)
        | '+' :: s => (false, s)
        | s => (false, s)
      match spanDigits s with
      | ([], []) => .error .cutShort
      | ([], _ :: _) => .error .illFormed
      | (ds, rest) =>
        let e : Nat := ds.foldl (fun n d => 10 * n + d) 0
        .ok (if negative then -(e : Int) else (e : Int), rest)
    else .ok (0, c :: s)

/-- The number behind a sign that is taken. -/
def readNumber (s : List Char) : Except Unfit (Numeral × List Char) := do
  let whole ← readWhole s
  let fraction ← readFraction whole.2
  let power ← readExponent fraction.2
  let n := fraction.1.foldl Numeral.fraction
    { whole.1.foldl Numeral.whole ⟨0, 0, false⟩ with full := false }
  .ok ({ n with exponent := n.exponent + power.1 }, power.2)

/-- The text behind a number whose sign is taken.  A number that is skipped is bad rather than cut
short where digits are missing. -/
def skipNumber (s : List Char) : Except Unfit (List Char) :=
  match readNumber s with
  | .ok (_, rest) => .ok rest
  | .error _ => .error .illFormed

/-! ### Values to be skipped -/

/-- What encloses the place where skipping stands. -/
inductive Frame
  | array
  | object
  deriving DecidableEq

/-- The character that ends a frame. -/
def Frame.close : Frame → Char
  | array => ']'
  | object => '}'

/-- Where skipping stands: before a value, behind a value, or at the start of a frame. -/
inductive Stand
  | before
  | behind
  | start
  deriving DecidableEq

/-- The text behind a key and its colon. -/
def skipKey (s : List Char) : Except Unfit (List Char) :=
  match skipSpace s with
  | [] => .error .cutShort
  | c :: s =>
    if c = '"' then do
      let s ← skipString s
      match skipSpace s with
      | [] => .error .cutShort
      | c :: s => if c = ':' then .ok s else .error .illFormed
    else .error .illFormed

/-- The text in which the next value of a frame stands first. -/
def Frame.advance : Frame → List Char → Except Unfit (List Char)
  | array, s => .ok s
  | object, s => skipKey s

/-- A step of skipping: where it stands then, in which frames, and the text that is left. -/
def skipStep (stand : Stand) (frames : List Frame) (s : List Char) :
    Except Unfit (Stand × List Frame × List Char) :=
  match stand, frames, skipSpace s with
  | _, _, [] => .error .cutShort
  | .before, frames, c :: s =>
    if c = 'n' then (skipWord "ull".toList s).map (.behind, frames, ·)
    else if c = 't' then (skipWord "rue".toList s).map (.behind, frames, ·)
    else if c = 'f' then (skipWord "alse".toList s).map (.behind, frames, ·)
    else if c = '-' then (skipNumber s).map (.behind, frames, ·)
    else if Text.isDigit 10 c then (skipNumber (c :: s)).map (.behind, frames, ·)
    else if c = '"' then (skipString s).map (.behind, frames, ·)
    else if c = '[' then .ok (.start, .array :: frames, s)
    else if c = '{' then .ok (.start, .object :: frames, s)
    else .error .illFormed
  | .start, f :: frames, c :: s =>
    if c = f.close then .ok (.behind, frames, s)
    else (f.advance (c :: s)).map (.before, f :: frames, ·)
  | .behind, f :: frames, c :: s =>
    if c = ',' then (f.advance s).map (.before, f :: frames, ·)
    else if c = f.close then .ok (.behind, frames, s)
    else .error .illFormed
  | _, [], _ :: _ => .error .illFormed

/-- At most `steps` steps of skipping. -/
def skipFor : Nat → Stand → List Frame → List Char → Except Unfit (List Char)
  | _, .behind, [], s => .ok s
  | 0, _, _, _ => .error .cutShort
  | steps + 1, stand, frames, s =>
    match skipStep stand frames s with
    | .error e => .error e
    | .ok (stand, frames, s) => skipFor steps stand frames s

/-- The text behind a value of any kind.  Every step but a first one in a frame takes a character,
so twice as many steps as characters are enough. -/
def skipValue (s : List Char) : Except Unfit (List Char) :=
  skipFor (2 * s.length + 2) .before [] s

/-! ### Values of another shape -/

/-- What is wrong with a text that begins with `c` where something else is asked for: a value is of
the wrong shape, and what is no value is no JSON. -/
def unexpected (c : Char) (s : List Char) : Unfit :=
  let outcome : Except Unfit Unit := do
    if c = 'n' then discard (skipWord "ull".toList s)
    else if c = 't' then discard (skipWord "rue".toList s)
    else if c = 'f' then discard (skipWord "alse".toList s)
    else if c = '"' then discard (readString s)
    else if c = '-' ∨ Text.isDigit 10 c then
      let (n, _) ← readNumber (if c = '-' then s else c :: s)
      if n.overflows then .error .illFormed
    else if c ≠ '[' ∧ c ≠ '{' then .error .illFormed
  match outcome with
  | .error e => e
  | .ok () => .mismatched

end DataSheet.Json
