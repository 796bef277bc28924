/-
**Defaults denote their values.**

Declarations give the default of a variable as an expression: a literal between parentheses, behind
the name of a type.  The literal of a truth value or a number can stand in a data sheet, and there
it denotes the very same value, for every node.  The literal of a text is a quoted text that denotes
it.

Main definitions:

* `Value.tag`, `Value.body` — the name and the literal of an expression;
* `hexLiteral` — a whole number in hexadecimal, with its sign;
* `Value.Readable` — a literal of a data sheet denotes the value;
* `Text.Quoted.Quotes` — one quoted text on one line that denotes a text;
* `Value.Denoted` — a literal denotes the value.

Main results:

* `Literal.outcome_value_hexLiteral` — whole numbers in hexadecimal are read back at their type;
* `Literal.outcome_value_number` — so are finite numbers;
* `defaults_denote_their_values` — **a default is left out exactly if there is none or the type is
  a domain, and else its literal denotes it**.
-/

import DataSheet.Declarations
import DataSheet.Proofs.Decimals
import DataSheet.Proofs.Integers
import DataSheet.Proofs.Quoted

set_option relaxedAutoImplicit false
set_option autoImplicit false

namespace DataSheet

/-! ### Expressions -/

/-- A whole number in hexadecimal, with its sign. -/
def hexLiteral (n : Int) : String := (if n < 0 then "-" else "") ++ "0x" ++ Text.lowerHex 1 n.natAbs

namespace Value

/-- The name that stands before a value of type `t`. -/
def tag (t : DataType) : Value → String
  | float _ => "Float"
  | text _ => "String"
  | boolean _ | signed _ | unsigned _ => t.name

/-- The literal of a value. -/
def body : Value → String
  | boolean b => if b then "true" else "false"
  | signed n => hexLiteral n.toInt
  | unsigned n => hexLiteral n.toNat
  | float x => x.text
  | text s => String.ofList (Text.Quoted.encode s.toList)

theorem expression_eq (t : DataType) (x : Value) :
    x.expression t = x.tag t ++ "(" ++ x.body ++ ")" := by
  cases x with
  | boolean b => rfl
  | signed n =>
      have hneg : n < 0 ↔ n.toInt < 0 := Int64.lt_iff_toInt_lt
      simp only [expression, tag, body, hexLiteral, hneg, String.append_assoc]
  | unsigned n =>
      have hnonneg : ¬ (n.toNat : Int) < 0 := by omega
      simp only [expression, tag, body, hexLiteral, if_neg hnonneg, Int.natAbs_natCast,
        String.empty_append, String.append_assoc]
      rfl
  | float x => rfl
  | text s => rfl

end Value

/-- A default that is not left out is an expression. -/
theorem defaultLiteral_of_some {v : Variable} {t : DataType} (ht : v.dataType = some t) {x : Value}
    (hx : v.defaultValue = some x) (hdomain : t ≠ .domain) :
    defaultLiteral v = .ok ("Some(DataValue::" ++ x.tag t ++ "(" ++ x.body ++ "))") := by
  unfold defaultLiteral
  rw [ht]
  dsimp only
  rw [hx]
  dsimp only
  rw [if_neg hdomain, Value.expression_eq]
  simp only [String.append_assoc]
  rfl

/-- A default is left out exactly if there is none, or if the type is a domain. -/
theorem defaultLiteral_eq_none_iff {v : Variable} {t : DataType} (ht : v.dataType = some t) :
    defaultLiteral v = .ok "None" ↔ v.defaultValue = none ∨ t = .domain := by
  constructor
  · intro h
    by_contra hgiven
    obtain ⟨hvalue, hdomain⟩ := not_or.1 hgiven
    obtain ⟨x, hx⟩ := Option.ne_none_iff_exists'.1 hvalue
    rw [defaultLiteral_of_some ht hx hdomain] at h
    have hchars := congrArg String.toList (Except.ok.inj h)
    simp only [String.toList_append] at hchars
    cases hchars
  · intro h
    unfold defaultLiteral
    rw [ht]
    rcases h with hvalue | rfl
    · rw [hvalue]
    · cases v.defaultValue <;> rfl

/-! ### Whole numbers -/

/-- Without regard to letter case, hexadecimal digits of either case are the same. -/
theorem Text.upper_lowerHex (width n : Nat) :
    upper (lowerHex width n).toList = (upperHex width n).toList := by
  simp [upper, lowerHex, upperHex, List.leftpad]

namespace Literal

theorem magnitude_upperHex {n : Nat} (hn : n ≤ 2 ^ 64 - 1) :
    Magnitude ('0' :: 'X' :: (Text.upperHex 1 n).toList) n := by
  have hupper : ∀ c ∈ (Text.upperHex 1 n).toList, c.toUpper = c := by
    rw [← Text.upper_lowerHex]
    exact fun c hc => Text.toUpper_of_mem_upper hc
  exact .hexadecimal ((Text.number?_eq_some_iff le_rfl hupper).1 (Text.number?_upperHex 1 n)) hn

/-- A number in hexadecimal has no blanks, and in upper case it follows the grammar. -/
theorem whole_compact_hexLiteral {n : Int} (hn : n.natAbs ≤ 2 ^ 64 - 1) :
    Whole (compact (hexLiteral n).toList) n := by
  have hdigits : ∀ c ∈ (Text.lowerHex 1 n.natAbs).toList, Text.isBlank c = false := fun c hc =>
    Text.not_isBlank_of_isDigit (Text.isDigit_of_number? (Text.number?_lowerHex 1 _) c hc)
  have hfilter : (Text.lowerHex 1 n.natAbs).toList.filter (fun c => !Text.isBlank c) =
      (Text.lowerHex 1 n.natAbs).toList :=
    List.filter_eq_self.2 fun c hc => by simp [hdigits c hc]
  have hmagnitude := magnitude_upperHex hn
  unfold compact hexLiteral
  rw [String.toList_append, String.toList_append, List.filter_append, List.filter_append, hfilter]
  rw [← Text.upper_lowerHex] at hmagnitude
  split
  next hneg =>
    have hn : n = -(n.natAbs : Int) := by omega
    conv_rhs => rw [hn]
    exact .minus hmagnitude
  next hneg =>
    have hn : n = (n.natAbs : Int) := by omega
    conv_rhs => rw [hn]
    exact .bare hmagnitude

/-- A number in hexadecimal denotes itself, for every node. -/
theorem integer?_hexLiteral (node : Option UInt8) {n : Int} (hn : n.natAbs ≤ 2 ^ 64 - 1) :
    integer? node (hexLiteral n).toList = some n :=
  integer?_eq_some_iff.2 (.absolute (whole_compact_hexLiteral hn))

/-- The numbers of an integer type have at most 64 bits, a sign apart. -/
theorem natAbs_le_of_spans {t : DataType} {n : Int} (h : t.Spans n) : n.natAbs ≤ 2 ^ 64 - 1 := by
  obtain ⟨low, high, hr, hlow, hhigh⟩ := h
  cases hs : t.isSigned with
  | true =>
      have := range?_of_isSigned hs hr
      omega
  | false =>
      have := range?_of_not_isSigned hs hr
      omega

theorem isInteger_of_spans {t : DataType} {n : Int} (h : t.Spans n) : t.isInteger := by
  obtain ⟨low, high, hr, -⟩ := h
  rw [← t.isSome_range?, hr]
  rfl

/-- A whole number in hexadecimal is read back at its type, for every node. -/
theorem outcome_value_hexLiteral {t : DataType} {n : Int} {x : Value} (hn : t.Spans n)
    (hx : x.Stores t n) (a : Address) (field : Field) (node : Option UInt8) :
    (value a field t node (hexLiteral n)).outcome = .ok (some x) := by
  have hread := integer?_hexLiteral node (natAbs_le_of_spans hn)
  rw [outcome_value_of_isInteger (isInteger_of_spans hn) (isBlank_of_integer? hread), hread,
    Option.bind_some, ofInt?_of_stores hn hx]

/-! ### Numbers -/

/-- The value of an entry is the value of its literal. -/
theorem parse?_of_outcome {a : Address} {field : Field} {t : DataType} {node : Option UInt8}
    {literal : String} {x : Value} (h : (value a field t node literal).outcome = .ok (some x)) :
    parse? t node literal = some x := by
  rw [outcome_value] at h
  split at h
  · cases h
  · split at h
    next y hy =>
      cases h
      exact hy
    next => cases h

theorem parse?_of_isFloat {t : DataType} (ht : t.isFloat) (node : Option UInt8) (literal : String) :
    parse? t node literal = (float? t literal.toList).map Value.float := by
  cases t <;> first | rfl | cases ht

/-- What a floating-point type asks of a number. -/
def Holds (t : DataType) (x : Binary64) : Bool :=
  if t = .real32 then x.fitsBinary32 else x.isFinite

theorem float?_eq_some_iff {t : DataType} {s : List Char} {x : Binary64} :
    float? t s = some x ↔ Binary64.ofText? (Text.trim s) = some x ∧ Holds t x := by
  rw [float?, Option.filter_eq_some_iff]
  rfl

/-- A finite number that has been read counts units of the format. -/
theorem exact_of_float? {t : DataType} {s : List Char} {negative : Bool} {units : Nat}
    (h : float? t s = some (.finite negative units)) : Binary64.Exact units :=
  Binary64.exact_of_ofText? (float?_eq_some_iff.1 h).1

/-- A finite number is read back at its type, for every node. -/
theorem outcome_value_number {t : DataType} (ht : t.isFloat) {negative : Bool} {units : Nat}
    (hu : Binary64.Exact units) (hx : Holds t (.finite negative units)) (a : Address)
    (field : Field) (node : Option UInt8) :
    (value a field t node (Binary64.text (.finite negative units))).outcome =
      .ok (some (.float (.finite negative units))) := by
  have htrim := Binary64.Layout.trim_write .answers negative units
  have hread := Binary64.ofText?_write .answers negative hu
  have hfloat : float? t (Binary64.text (.finite negative units)).toList =
      some (.finite negative units) := by
    rw [float?_eq_some_iff, Binary64.text, String.toList_ofList, htrim]
    exact ⟨hread, hx⟩
  have homitted : ¬ Omitted t (Binary64.text (.finite negative units)) := by
    rintro (rfl | h)
    · cases ht
    · rw [Bool.and_eq_true] at h
      have hempty : Text.trim (Binary64.text (.finite negative units)).toList = [] := by
        simpa [isBlank] using h.2
      rw [Binary64.text, String.toList_ofList, htrim] at hempty
      rw [hempty] at hread
      cases hread
  rw [outcome_value, if_neg homitted, parse?_of_isFloat ht, hfloat]
  rfl

end Literal

/-! ### Denotation -/

/-- The literal is one quoted text, which denotes the text `s`: the first quote in it that has no
backslash before it is the last character.  It does not leave its line. -/
def Text.Quoted.Quotes (literal s : List Char) : Prop :=
  literal? literal = some (s, []) ∧ '\r' ∉ literal ∧ '\n' ∉ literal

/-- All ways to write a text between quotes denote it. -/
theorem Text.Quoted.quotes_of_inside {s t : List Char} (h : Inside s t) :
    Quotes ('"' :: t ++ ['"']) s := by
  have hcontrol : ∀ c, isControl c → c ∉ '"' :: t ++ ['"'] := by
    intro c hc hmem
    rcases List.mem_append.1 hmem with hmem | hmem
    · rcases List.mem_cons.1 hmem with rfl | hmem
      · cases hc
      · rw [h.not_isControl c hmem] at hc
        cases hc
    · rw [List.mem_singleton.1 hmem] at hc
      cases hc
  exact ⟨literal?_of_inside h [], hcontrol '\r' rfl, hcontrol '\n' rfl⟩

namespace Value

/-- Some literal of a data sheet denotes the value at the type `t`. -/
def Readable (t : DataType) (x : Value) : Prop :=
  ∃ a field node literal, (Literal.value a field t node literal).outcome = .ok (some x)

/-- The literal denotes the value at the type `t`.  The literal of a truth value or a number may
stand in a data sheet, with or without a node.  The literal of a floating-point number has a point
or an exponent.  The literal of a text is quoted. -/
def Denoted (t : DataType) (literal : String) : Value → Prop
  | text s =>
    Text.Quoted.Quotes literal.toList s.toList ∧
      ∃ inner, Text.Quoted.Inside s.toList inner ∧ literal.toList = '"' :: inner ++ ['"']
  | float x =>
    ('.' ∈ literal.toList ∨ 'e' ∈ literal.toList) ∧ Binary64.ofText? literal.toList = some x ∧
      ∀ a field node, (Literal.value a field t node literal).outcome = .ok (some (.float x))
  | x => ∀ a field node, (Literal.value a field t node literal).outcome = .ok (some x)

variable {t : DataType}

theorem denoted_text (t : DataType) (s : String) : (text s).Denoted t (text s).body := by
  have hinside := Text.Quoted.inside_body s.toList
  have hbody : (text s).body.toList = '"' :: Text.Quoted.body s.toList ++ ['"'] :=
    String.toList_ofList
  refine ⟨?_, _, hinside, hbody⟩
  rw [hbody]
  exact Text.Quoted.quotes_of_inside hinside

theorem denoted_boolean (b : Bool) : (boolean b).Denoted .boolean (boolean b).body := by
  intro a field node
  cases b <;> rfl

/-- A finite number that can be read is denoted by its text. -/
theorem denoted_float {x : Binary64} (ht : t.isFloat) {s : List Char}
    (h : Literal.float? t s = some x) (hx : x.isFinite) : (float x).Denoted t (float x).body := by
  cases x with
  | nan => cases hx
  | infinite negative => cases hx
  | finite negative units =>
      have hu := Literal.exact_of_float? h
      have hbody : (float (.finite negative units)).body.toList =
          Binary64.Layout.answers.write (.finite negative units) := String.toList_ofList
      refine ⟨?_, ?_, Literal.outcome_value_number ht hu (Literal.float?_eq_some_iff.1 h).2⟩
      · rw [hbody]
        exact Binary64.Layout.mark_mem_write .answers negative units
      · rw [hbody]
        exact Binary64.ofText?_write .answers negative hu

/-- **A value that can be read is denoted by its literal.** -/
theorem Readable.denoted {x : Value} (h : x.Readable t) : x.Denoted t x.body := by
  obtain ⟨a, field, node, literal, h⟩ := h
  have hfits : x.Fits t := Literal.value_fits h x rfl
  cases x with
  | boolean b =>
      cases hfits
      exact denoted_boolean b
  | signed n =>
      obtain ⟨hs, hspans⟩ := hfits
      exact Literal.outcome_value_hexLiteral hspans ⟨hs, rfl⟩
  | unsigned n =>
      obtain ⟨hu, hspans⟩ := hfits
      exact Literal.outcome_value_hexLiteral hspans ⟨hu, rfl⟩
  | float x =>
      obtain ⟨ht, hx⟩ := hfits
      obtain ⟨y, hy, heq⟩ := Option.map_eq_some_iff.1
        ((Literal.parse?_of_isFloat ht node literal).symm.trans (Literal.parse?_of_outcome h))
      cases heq
      exact denoted_float ht hy hx
  | text s => exact denoted_text t s

end Value

open Value Text.Quoted

/-- **Defaults denote their values.**  The default of a variable with a type is left out exactly if
there is none or the type is a domain.  Any other default that a literal of a data sheet can denote
is written with a literal that denotes it, behind the name for its type.  Texts are denoted whatever
characters are written as codes, as long as quotes, backslashes and controls do not stand for
themselves. -/
theorem defaults_denote_their_values {v : Variable} {t : DataType} (ht : v.dataType = some t) :
    (defaultLiteral v = .ok "None" ↔ v.defaultValue = none ∨ t = .domain) ∧
      (∀ x, v.defaultValue = some x → t ≠ .domain → x.Readable t →
        ∃ body,
          defaultLiteral v = .ok ("Some(DataValue::" ++ x.tag t ++ "(" ++ body ++ "))") ∧
          x.Denoted t body) ∧
      ∀ s inner, Inside s inner → Quotes ('"' :: inner ++ ['"']) s := by
  refine ⟨defaultLiteral_eq_none_iff ht, fun x hx hdomain hread => ?_,
    fun s inner h => quotes_of_inside h⟩
  exact ⟨x.body, defaultLiteral_of_some ht hx hdomain, hread.denoted⟩

/-- The least number of 64 bits is written with its sign, and a text with quotes in it with
backslashes before them. -/
theorem defaults_denote_their_values_least : ∃ offset greeting : Variable,
    offset.defaultValue = some (.signed Int64.minValue) ∧
    greeting.defaultValue = some (.text "say \"hi\"") ∧
    (∃ body,
      defaultLiteral offset = .ok ("Some(DataValue::" ++ "INTEGER64" ++ "(" ++ body ++ "))") ∧
      (signed Int64.minValue).Denoted .integer64 body) ∧
    ∃ body,
      defaultLiteral greeting = .ok ("Some(DataValue::" ++ "String" ++ "(" ++ body ++ "))") ∧
      (text "say \"hi\"").Denoted .visibleString body := by
  let offset : Variable := { Variable.blank "Offset" 0x2000 0 with
    dataType := some .integer64, defaultValue := some (.signed Int64.minValue) }
  let greeting : Variable := { Variable.blank "Greeting" 0x2001 0 with
    dataType := some .visibleString, defaultValue := some (.text "say \"hi\"") }
  have hleast : (signed Int64.minValue).Readable .integer64 :=
    ⟨⟨0x2000, 0⟩, .defaultValue, none, "-0x8000000000000000", by decide⟩
  have hquotes : (text "say \"hi\"").Readable .visibleString :=
    ⟨⟨0x2001, 0⟩, .defaultValue, none, "say \"hi\"", by decide⟩
  have hoffset : offset.dataType = some .integer64 := rfl
  have hgreeting : greeting.dataType = some .visibleString := rfl
  have hfirst := (defaults_denote_their_values hoffset).2.1 _ rfl DataType.noConfusion hleast
  have hsecond := (defaults_denote_their_values hgreeting).2.1 _ rfl DataType.noConfusion hquotes
  exact ⟨offset, greeting, rfl, rfl, hfirst, hsecond⟩

end DataSheet
