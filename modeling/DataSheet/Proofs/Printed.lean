/-
**A JSON text has one value.**

What is written of a value ends where a comma or a new line follows, and can be told from what is
written of any other value.  So a text determines the value of which it was written.  Numbers need
some care: they have no end of their own, and those with a point or an exponent have to be told from
whole ones.

Main definitions:

* `Json.Kind`, `Json.kindOf` — the kinds of values, by their first character;
* `Json.Ends` — a text in which a value does not go on;
* `Json.Printable` — the numbers of a value are those of the format.

Main results:

* `Json.readString_quote` — **a string that is quoted is read back**;
* `Json.intText_injective`, `Json.intText_ne_write` — numbers can be told apart;
* `Json.Printable.write_append_inj` — a value that is written can be cut off from what follows it;
* `Json.pretty_injective` — **two values with one text are the same**.
-/

import DataSheet.Json.Printer
import DataSheet.Json.Reader
import DataSheet.Proofs.Decimals

set_option relaxedAutoImplicit false
set_option autoImplicit false

namespace DataSheet.Json

open Binary64 (Exact Layout)

/-! ### Strings -/

/-- A character that is written inside quotes is read as itself. -/
theorem readStringFrom_escape (c : Char) (read s : List Char) :
    readStringFrom true .plain read (escape c ++ s) = readStringFrom true .plain (c :: read) s := by
  unfold escape
  split
  next h => subst h; rfl
  split
  next h => subst h; rfl
  split
  next h => subst h; rfl
  split
  next h => subst h; rfl
  split
  next h => subst h; rfl
  split
  next h => subst h; rfl
  split
  next h => subst h; rfl
  split
  next hcontrol =>
    rw [← Char.ofNat_toNat c]
    generalize c.toNat = n at hcontrol
    interval_cases n <;> rfl
  next hquote hbackslash _ _ _ _ _ hplain =>
    rw [List.singleton_append, readStringFrom, if_neg hquote, if_neg hbackslash, if_neg hplain]

/-- **A string that is quoted is read back**, and what stands behind it is left. -/
theorem readString_quote (s : String) (rest : List Char) :
    readString (s.toList.flatMap escape ++ '"' :: rest) = .ok (s, rest) := by
  have hread : ∀ (cs read : List Char),
      readStringFrom true .plain read (cs.flatMap escape ++ '"' :: rest) =
        .ok (read.reverse ++ cs, rest) := by
    intro cs
    induction cs with
    | nil =>
        intro read
        rw [List.append_nil]
        rfl
    | cons c cs ih =>
        intro read
        rw [List.flatMap_cons, List.append_assoc, readStringFrom_escape, ih, List.reverse_cons,
          List.append_assoc, List.singleton_append]
  unfold readString
  rw [hread]
  exact congrArg (fun s => Except.ok (s, rest)) String.ofList_toList

/-- A string ends with its closing quote. -/
theorem quote_append_inj {s s' : String} {r r' : List Char} (h : quote s ++ r = quote s' ++ r') :
    s = s' ∧ r = r' := by
  have hquote : ∀ (s : String) (r : List Char),
      quote s ++ r = '"' :: (s.toList.flatMap escape ++ '"' :: r) := by
    intro s r
    simp [quote]
  rw [hquote, hquote] at h
  have hread := congrArg readString (List.cons.inj h).2
  rw [readString_quote, readString_quote] at hread
  cases hread
  exact ⟨rfl, rfl⟩

/-! ### Numbers -/

/-- A run of characters ends where another one follows. -/
theorem run_append_inj {p : Char → Prop} {s s' r r' : List Char} (hs : ∀ c ∈ s, p c)
    (hs' : ∀ c ∈ s', p c) (hr : ∀ c ∈ r.head?, ¬ p c) (hr' : ∀ c ∈ r'.head?, ¬ p c)
    (h : s ++ r = s' ++ r') : s = s' ∧ r = r' := by
  induction s generalizing s' with
  | nil =>
      cases s' with
      | nil => exact ⟨rfl, h⟩
      | cons c s' =>
          subst h
          exact absurd (hs' c List.mem_cons_self) (hr c rfl)
  | cons c s ih =>
      cases s' with
      | nil =>
          cases h
          exact absurd (hs c List.mem_cons_self) (hr' c rfl)
      | cons d s' =>
          rw [List.cons_append, List.cons_append, List.cons.injEq] at h
          obtain ⟨rfl, h⟩ := h
          obtain ⟨hrun, hrest⟩ := ih (fun e he => hs e (List.mem_cons_of_mem c he))
            (fun e he => hs' e (List.mem_cons_of_mem c he)) h
          exact ⟨congrArg (c :: ·) hrun, hrest⟩

theorem isDigit_of_mem_toDigits {n : Nat} {c : Char} (hc : c ∈ Nat.toDigits 10 n) :
    Text.isDigit 10 c :=
  Text.isDigit_of_number? (Text.number?_toDigits (by omega) (by omega) n) c hc

theorem toDigits_injective {n m : Nat} (h : Nat.toDigits 10 n = Nat.toDigits 10 m) : n = m := by
  have hread := congrArg (Text.number? 10) h
  rw [Text.number?_toDigits (by omega) (by omega), Text.number?_toDigits (by omega) (by omega)]
    at hread
  exact Option.some.inj hread

/-- The digits of a number do not begin with a sign. -/
theorem toDigits_ne_minus (n : Nat) (s : List Char) : Nat.toDigits 10 n ≠ '-' :: s := by
  intro h
  have hminus : '-' ∈ Nat.toDigits 10 n := h ▸ List.mem_cons_self
  exact absurd (isDigit_of_mem_toDigits hminus) (by decide)

/-- Whole numbers differ in their digits or their sign. -/
theorem intText_injective {n m : Int} (h : intText n = intText m) : n = m := by
  cases n with
  | ofNat n =>
      cases m with
      | ofNat m => exact congrArg Int.ofNat (toDigits_injective h)
      | negSucc m => exact absurd h (toDigits_ne_minus n _)
  | negSucc n =>
      cases m with
      | ofNat m => exact absurd h.symm (toDigits_ne_minus m _)
      | negSucc m =>
          have hdigits := toDigits_injective (List.cons.inj h).2
          rw [Nat.succ.inj hdigits]

/-- A whole number is written with digits and a sign. -/
theorem mem_intText {n : Int} {c : Char} (hc : c ∈ intText n) : Text.isDigit 10 c ∨ c = '-' := by
  cases n with
  | ofNat n => exact .inl (isDigit_of_mem_toDigits hc)
  | negSucc n =>
      rcases List.mem_cons.1 hc with rfl | hc
      · exact .inr rfl
      · exact .inl (isDigit_of_mem_toDigits hc)

theorem intText_ne_nil (n : Int) : intText n ≠ [] := by
  cases n with
  | ofNat n => exact Nat.toDigits_ne_nil
  | negSucc n => exact List.cons_ne_nil _ _

/-- A number with a point or an exponent is not written like a whole one. -/
theorem intText_ne_write (n : Int) (negative : Bool) (units : Nat) :
    intText n ≠ Layout.interchange.write (.finite negative units) := by
  intro h
  have hmark := Layout.mark_mem_write Layout.interchange negative units
  rw [← h] at hmark
  rcases hmark with hmark | hmark <;> exact absurd (mem_intText hmark) (by decide)

/-- Numbers of the format differ in their texts. -/
theorem write_injective {negative negative' : Bool} {units units' : Nat} (hu : Exact units)
    (hu' : Exact units')
    (h : Layout.interchange.write (.finite negative units) =
      Layout.interchange.write (.finite negative' units')) :
    Binary64.finite negative units = .finite negative' units' := by
  have hread := congrArg Binary64.ofText? h
  rw [Binary64.ofText?_write _ negative hu, Binary64.ofText?_write _ negative' hu'] at hread
  exact Option.some.inj hread

/-! ### Kinds of values -/

/-- The kinds of values that can be told by the first character of a text. -/
inductive Kind
  | null
  | truth
  | number
  | string
  | array
  | object

/-- The kind of a value. -/
def kind : Json → Kind
  | .null => .null
  | .bool _ => .truth
  | .int _ | .real _ => .number
  | .string _ => .string
  | .array _ => .array
  | .object _ => .object

/-- The kind of the value that a character opens. -/
def kindOf (c : Char) : Kind :=
  if c = 'n' then .null
  else if c = 't' ∨ c = 'f' then .truth
  else if c = '"' then .string
  else if c = '[' then .array
  else if c = '{' then .object
  else .number

/-- The numbers of a value are finite ones of the format, so that they can all be written. -/
inductive Printable : Json → Prop
  | null : Printable .null
  | bool (b : Bool) : Printable (.bool b)
  | int (n : Int) : Printable (.int n)
  | real {negative : Bool} {units : Nat} (exact : Exact units) :
      Printable (.real (.finite negative units))
  | string (s : String) : Printable (.string s)
  | array {items : List Json} (items_printable : ∀ j ∈ items, Printable j) :
      Printable (.array items)
  | object {members : List (String × Json)} (members_printable : ∀ m ∈ members, Printable m.2) :
      Printable (.object members)

/-! ### What is written -/

/-- The characters of numbers. -/
def InNumber (c : Char) : Prop := Text.isDigit 10 c ∨ Layout.isMark c

instance : DecidablePred InNumber := fun c =>
  inferInstanceAs (Decidable (Text.isDigit 10 c ∨ Layout.isMark c))

theorem inNumber_of_mem_intText {n : Int} {c : Char} (hc : c ∈ intText n) : InNumber c := by
  rcases mem_intText hc with hc | rfl
  · exact .inl hc
  · exact .inr rfl

theorem kindOf_of_inNumber {c : Char} (hc : InNumber c) : kindOf c = .number := by
  have hne : ∀ d, ¬ InNumber d → c ≠ d := by
    rintro d hd rfl
    exact hd hc
  have hn := hne 'n' (by decide)
  have htruth : ¬ (c = 't' ∨ c = 'f') := not_or.2 ⟨hne 't' (by decide), hne 'f' (by decide)⟩
  have hquote := hne '"' (by decide)
  have harray := hne '[' (by decide)
  have hobject := hne '{' (by decide)
  rw [kindOf, if_neg hn, if_neg htruth, if_neg hquote, if_neg harray, if_neg hobject]

/-- A text of numbers' characters, if there are any, opens as a number. -/
theorem opens_of_inNumber {s : List Char} (hne : s ≠ []) (hs : ∀ c ∈ s, InNumber c) :
    ∃ c t, s = c :: t ∧ kindOf c = .number := by
  obtain ⟨c, t, rfl⟩ := List.exists_cons_of_ne_nil hne
  exact ⟨c, t, rfl, kindOf_of_inNumber (hs c List.mem_cons_self)⟩

theorem write_ne_nil (negative : Bool) (units : Nat) :
    Layout.interchange.write (.finite negative units) ≠ [] := by
  intro hnil
  have hmark := Layout.mark_mem_write Layout.interchange negative units
  rw [hnil] at hmark
  rcases hmark with hmark | hmark <;> cases hmark

/-- The first character of a text tells the kind of the value. -/
theorem Printable.opens {j : Json} (hj : Printable j) (depth : Nat) :
    ∃ c t, write depth j = c :: t ∧ kindOf c = j.kind := by
  cases hj with
  | null => exact ⟨_, _, rfl, rfl⟩
  | bool b => cases b <;> exact ⟨_, _, rfl, rfl⟩
  | int n => exact opens_of_inNumber (intText_ne_nil n) fun c => inNumber_of_mem_intText
  | @real negative units _ =>
      exact opens_of_inNumber (write_ne_nil negative units) (Layout.numeric_write _ _ _)
  | string s => exact ⟨_, _, rfl, rfl⟩
  | @array items _ => cases items <;> exact ⟨_, _, rfl, rfl⟩
  | @object members _ => cases members <;> exact ⟨_, _, rfl, rfl⟩

theorem Printable.kind_eq {j j' : Json} (hj : Printable j) (hj' : Printable j') {depth : Nat}
    {r r' : List Char} (h : write depth j ++ r = write depth j' ++ r') : j.kind = j'.kind := by
  obtain ⟨c, t, htext, hkind⟩ := hj.opens depth
  obtain ⟨c', t', htext', hkind'⟩ := hj'.opens depth
  rw [htext, htext'] at h
  cases (List.cons.inj h).1
  rw [← hkind, ← hkind']

/-- A value does not go on in this text: it is empty, or a comma or a new line comes first. -/
def Ends (r : List Char) : Prop := ∀ c ∈ r.head?, c = ',' ∨ c = '\n'

theorem ends_nil : Ends [] := nofun

theorem ends_newLine (depth : Nat) (r : List Char) : Ends (newLine depth ++ r) := by
  rintro c ⟨⟩
  exact .inr rfl

theorem Ends.not_inNumber {r : List Char} (hr : Ends r) : ∀ c ∈ r.head?, ¬ InNumber c := by
  intro c hc
  rcases hr c hc with rfl | rfl <;> decide

/-! ### Values can be cut off -/

/-- A value that is written, the text behind it taken away, is no other value. -/
def CutsOff (j : Json) : Prop :=
  ∀ {j' : Json} {depth : Nat} {r r' : List Char}, Printable j' → Ends r → Ends r' →
    write depth j ++ r = write depth j' ++ r' → j = j' ∧ r = r'

section Nested

variable {depth : Nat} {r r' : List Char}

theorem ends_writeItems (items : List Json) (hr : Ends r) : Ends (writeItems depth items ++ r) := by
  cases items with
  | nil => exact hr
  | cons j items =>
      rintro c ⟨⟩
      exact .inl rfl

theorem ends_writeMembers (members : List (String × Json)) (hr : Ends r) :
    Ends (writeMembers depth members ++ r) := by
  cases members with
  | nil => exact hr
  | cons m members =>
      rintro c ⟨⟩
      exact .inl rfl

theorem writeItems_cons_append (j : Json) (items : List Json) (r : List Char) :
    writeItems depth (j :: items) ++ r =
      ',' :: (newLine depth ++ (write depth j ++ (writeItems depth items ++ r))) := by
  simp only [writeItems, List.cons_append, List.append_assoc]

theorem writeMembers_cons_append (key : String) (j : Json) (members : List (String × Json))
    (r : List Char) :
    writeMembers depth ((key, j) :: members) ++ r =
      ',' :: (newLine depth ++ (quote key ++ ':' :: ' ' ::
        (write depth j ++ (writeMembers depth members ++ r)))) := by
  simp only [writeMembers, List.cons_append, List.append_assoc]

/-- Items are cut off one after the other, up to a new line without a comma before it. -/
theorem writeItems_append_inj {items items' : List Json} (hitems : ∀ j ∈ items, CutsOff j)
    (hitems' : ∀ j ∈ items', Printable j)
    (h : writeItems depth items ++ '\n' :: r = writeItems depth items' ++ '\n' :: r') :
    items = items' ∧ r = r' := by
  have hends : ∀ r, Ends ('\n' :: r) := ends_newLine 0
  induction items generalizing items' with
  | nil =>
      cases items' with
      | nil => exact ⟨rfl, (List.cons.inj h).2⟩
      | cons j' items' =>
          rw [writeItems_cons_append] at h
          exact absurd (List.cons.inj h).1 (by decide)
  | cons j items ih =>
      cases items' with
      | nil =>
          rw [writeItems_cons_append] at h
          exact absurd (List.cons.inj h).1 (by decide)
      | cons j' items' =>
          rw [writeItems_cons_append, writeItems_cons_append] at h
          have hvalue := List.append_cancel_left (List.cons.inj h).2
          obtain ⟨rfl, hrest⟩ := hitems j List.mem_cons_self (hitems' j' List.mem_cons_self)
            (ends_writeItems items (hends r)) (ends_writeItems items' (hends r')) hvalue
          obtain ⟨rfl, hr⟩ := ih (fun k hk => hitems k (List.mem_cons_of_mem j hk))
            (fun k hk => hitems' k (List.mem_cons_of_mem j hk)) hrest
          exact ⟨rfl, hr⟩

/-- So are members, each with its key. -/
theorem writeMembers_append_inj {members members' : List (String × Json)}
    (hmembers : ∀ m ∈ members, CutsOff m.2) (hmembers' : ∀ m ∈ members', Printable m.2)
    (h : writeMembers depth members ++ '\n' :: r = writeMembers depth members' ++ '\n' :: r') :
    members = members' ∧ r = r' := by
  have hends : ∀ r, Ends ('\n' :: r) := ends_newLine 0
  induction members generalizing members' with
  | nil =>
      cases members' with
      | nil => exact ⟨rfl, (List.cons.inj h).2⟩
      | cons m' members' =>
          rw [writeMembers_cons_append] at h
          exact absurd (List.cons.inj h).1 (by decide)
  | cons m members ih =>
      obtain ⟨key, j⟩ := m
      cases members' with
      | nil =>
          rw [writeMembers_cons_append] at h
          exact absurd (List.cons.inj h).1 (by decide)
      | cons m' members' =>
          obtain ⟨key', j'⟩ := m'
          rw [writeMembers_cons_append, writeMembers_cons_append] at h
          obtain ⟨rfl, hvalue⟩ := quote_append_inj (List.append_cancel_left (List.cons.inj h).2)
          have hvalue := (List.cons.inj (List.cons.inj hvalue).2).2
          obtain ⟨rfl, hrest⟩ := hmembers (key, j) List.mem_cons_self
            (hmembers' (key, j') List.mem_cons_self) (ends_writeMembers members (hends r))
            (ends_writeMembers members' (hends r')) hvalue
          obtain ⟨rfl, hr⟩ := ih (fun k hk => hmembers k (List.mem_cons_of_mem _ hk))
            (fun k hk => hmembers' k (List.mem_cons_of_mem _ hk)) hrest
          exact ⟨rfl, hr⟩

/-- Behind its bracket an array has its items, the first of which goes without a comma. -/
theorem comma_write_array (j : Json) (items : List Json) (r : List Char) :
    ',' :: (write depth (.array (j :: items)) ++ r).tail =
      writeItems (depth + 1) (j :: items) ++
        '\n' :: (List.replicate (2 * depth) ' ' ++ ']' :: r) := by
  rw [writeItems_cons_append]
  simp only [write, newLine, List.cons_append, List.append_assoc, List.tail_cons, List.nil_append]

/-- The same for an object and its members. -/
theorem comma_write_object (key : String) (j : Json) (members : List (String × Json))
    (r : List Char) :
    ',' :: (write depth (.object ((key, j) :: members)) ++ r).tail =
      writeMembers (depth + 1) ((key, j) :: members) ++
        '\n' :: (List.replicate (2 * depth) ' ' ++ '}' :: r) := by
  rw [writeMembers_cons_append]
  simp only [write, newLine, List.cons_append, List.append_assoc, List.tail_cons, List.nil_append]

theorem write_array_append_inj {items items' : List Json} (hitems : ∀ j ∈ items, CutsOff j)
    (hitems' : ∀ j ∈ items', Printable j)
    (h : write depth (.array items) ++ r = write depth (.array items') ++ r') :
    items = items' ∧ r = r' := by
  cases items with
  | nil =>
      cases items' with
      | nil => exact ⟨rfl, List.append_cancel_left h⟩
      | cons j' items' => exact absurd (List.cons.inj (List.cons.inj h).2).1 (by decide)
  | cons j items =>
      cases items' with
      | nil => exact absurd (List.cons.inj (List.cons.inj h).2).1 (by decide)
      | cons j' items' =>
          have h := congrArg (fun s => ',' :: s.tail) h
          rw [comma_write_array, comma_write_array] at h
          obtain ⟨hsame, hrest⟩ := writeItems_append_inj hitems hitems' h
          exact ⟨hsame, (List.cons.inj (List.append_cancel_left hrest)).2⟩

theorem write_object_append_inj {members members' : List (String × Json)}
    (hmembers : ∀ m ∈ members, CutsOff m.2) (hmembers' : ∀ m ∈ members', Printable m.2)
    (h : write depth (.object members) ++ r = write depth (.object members') ++ r') :
    members = members' ∧ r = r' := by
  cases members with
  | nil =>
      cases members' with
      | nil => exact ⟨rfl, List.append_cancel_left h⟩
      | cons m' members' => exact absurd (List.cons.inj (List.cons.inj h).2).1 (by decide)
  | cons m members =>
      cases members' with
      | nil => exact absurd (List.cons.inj (List.cons.inj h).2).1 (by decide)
      | cons m' members' =>
          have h := congrArg (fun s => ',' :: s.tail) h
          rw [comma_write_object, comma_write_object] at h
          obtain ⟨hsame, hrest⟩ := writeMembers_append_inj hmembers hmembers' h
          exact ⟨hsame, (List.cons.inj (List.append_cancel_left hrest)).2⟩

end Nested

/-! ### Values and their texts -/

/-- A number is written with the characters of numbers. -/
theorem Printable.inNumber {j : Json} (hj : Printable j) (hkind : j.kind = .number)
    (depth : Nat) : ∀ c ∈ write depth j, InNumber c := by
  cases hj with
  | int n => exact fun c => inNumber_of_mem_intText
  | real _ => exact Layout.numeric_write _ _ _
  | _ => cases hkind

/-- Numbers differ in their texts. -/
theorem Printable.number_injective {j j' : Json} (hj : Printable j) (hj' : Printable j')
    (hkind : j.kind = .number) (hkind' : j'.kind = .number) {depth : Nat}
    (h : write depth j = write depth j') : j = j' := by
  cases hj with
  | int n =>
      cases hj' with
      | int n' => exact congrArg Json.int (intText_injective h)
      | real _ => exact absurd h (intText_ne_write n _ _)
      | _ => cases hkind'
  | real exact =>
      cases hj' with
      | int n' => exact absurd h.symm (intText_ne_write n' _ _)
      | real exact' => exact congrArg Json.real (write_injective exact exact' h)
      | _ => cases hkind'
  | _ => cases hkind

theorem Printable.cutsOff_number {j : Json} (hj : Printable j) (hkind : j.kind = .number) :
    CutsOff j := by
  intro j' depth r r' hj' hr hr' h
  have hkind' : j'.kind = .number := (hj.kind_eq hj' h).symm.trans hkind
  obtain ⟨htext, hrest⟩ := run_append_inj (hj.inNumber hkind depth) (hj'.inNumber hkind' depth)
    hr.not_inNumber hr'.not_inNumber h
  exact ⟨hj.number_injective hj' hkind hkind' htext, hrest⟩

/-- **A value that is written can be cut off from what follows it.** -/
theorem Printable.write_append_inj {j : Json} (hj : Printable j) : CutsOff j := by
  induction hj with
  | null =>
      intro j' depth r r' hj' _ _ h
      have hkind := Printable.null.kind_eq hj' h
      cases hj' with
      | null => exact ⟨rfl, List.append_cancel_left h⟩
      | _ => cases hkind
  | bool b =>
      intro j' depth r r' hj' _ _ h
      have hkind := (Printable.bool b).kind_eq hj' h
      cases hj' with
      | bool b' =>
          cases b <;> cases b'
          · exact ⟨rfl, List.append_cancel_left h⟩
          · exact absurd (List.cons.inj h).1 (by decide)
          · exact absurd (List.cons.inj h).1 (by decide)
          · exact ⟨rfl, List.append_cancel_left h⟩
      | _ => cases hkind
  | int n => exact (Printable.int n).cutsOff_number rfl
  | real exact => exact (Printable.real exact).cutsOff_number rfl
  | string s =>
      intro j' depth r r' hj' _ _ h
      have hkind := (Printable.string s).kind_eq hj' h
      cases hj' with
      | string s' =>
          obtain ⟨rfl, hr⟩ := quote_append_inj h
          exact ⟨rfl, hr⟩
      | _ => cases hkind
  | array items_printable ih =>
      intro j' depth r r' hj' _ _ h
      have hkind := (Printable.array items_printable).kind_eq hj' h
      cases hj' with
      | array items_printable' =>
          obtain ⟨rfl, hr⟩ := write_array_append_inj ih items_printable' h
          exact ⟨rfl, hr⟩
      | _ => cases hkind
  | object members_printable ih =>
      intro j' depth r r' hj' _ _ h
      have hkind := (Printable.object members_printable).kind_eq hj' h
      cases hj' with
      | object members_printable' =>
          obtain ⟨rfl, hr⟩ := write_object_append_inj ih members_printable' h
          exact ⟨rfl, hr⟩
      | _ => cases hkind

/-- **Two values with one text are the same.** -/
theorem pretty_injective {j j' : Json} (hj : Printable j) (hj' : Printable j')
    (h : j.pretty = j'.pretty) : j = j' := by
  have htext : write 0 j ++ [] = write 0 j' ++ [] :=
    congrArg (· ++ []) (String.ofList_injective h)
  exact (hj.write_append_inj hj' ends_nil ends_nil htext).1

end DataSheet.Json
