/-
**Arrays in short form, written out.**

The section of an array may describe its elements at once: it tells their number and gives the
attributes that they share, and a list may give them names.  The same can be written with one
section for each member.  This module writes such sections, and shows that they describe what the
short form stands for: the member with the number of elements, the template, and the elements with
names of their own.

Main definitions:

* `Section.reduced`, `Section.countSection`, `Section.elementSection` — the sections of the array,
  of the number of its elements, and of an element;
* `Sheet.namesAt` — the names that a list gives to the elements of an array;
* `Sheet.expanded` — the data sheet with an array written out;
* `Sheet.ShortForm` — a section is that of an array in short form, which nothing else is about;
* `Sheet.TypesIn` — the types that one data sheet defines, another one does.

Main results:

* `Sheet.outcome_variable_countSection`, `Section.sameAttributes_elementSection` — what the written
  sections describe;
* `Sheet.TypesIn.outcome_variable`, `Sheet.TypesIn.contribution` — **what can be read with some
  types can be read with more**, to the same variables and objects;
* `Sheet.TypesIn.variable_eq`, `Sheet.TypesIn.object_eq` — and in the same way, to the notices;
* `Sheet.ShortForm.typesIn_expanded` — writing an array out takes no type away.
-/

import DataSheet.Proofs.Attributes
import DataSheet.Proofs.Faults
import DataSheet.Proofs.Integers
import DataSheet.Proofs.Node
import DataSheet.Proofs.Runs
import Mathlib.Data.Nat.Digits.Defs

set_option relaxedAutoImplicit false
set_option autoImplicit false

namespace DataSheet

/-! ### Writing an array out -/

namespace Section

/-- The section of an array whose members have sections of their own. -/
def reduced (s : Section) : Section :=
  { s with entries := [.ofLine "ObjectType" "9" 0, .ofLine "ParameterName" s.title 0] }

/-- A section for the number of elements. -/
def countSection (name literal : String) : Section :=
  ⟨name, 0, [.ofLine "AccessType" "ro" 0, .ofLine "DataType" "0x0005" 0,
    .ofLine "DefaultValue" literal 0, .ofLine "ParameterName" "Number of entries" 0]⟩

/-- The keys under which an array in short form tells of itself and not of its elements. -/
def ownKeys : List String := ["ObjectType", "CompactSubObj", "ParameterName"].map foldKey

/-- A section for an element, with the attributes that the array in short form gives. -/
def elementSection (s : Section) (name title : String) : Section :=
  Section.insert ⟨name, 0, s.entries.filter fun e => e.key ∉ ownKeys⟩
    (.ofLine "ParameterName" title 0)

/-- The sections of the members of an array in short form: the number of elements, the template
under the name that is listed for it, and the other elements that are listed.  Here `spell` gives
the names of the sections. -/
def expansion (s : Section) (names : List (UInt8 × String)) (spell : UInt8 → String) :
    List Section :=
  countSection (spell 0) ((s.value? "CompactSubObj").getD "") ::
    s.elementSection (spell 1) ((names.lookup 1).getD s.title) ::
      (names.filter fun x => 1 < x.1).map fun x => s.elementSection (spell x.1) x.2

/-- The names that a section gives to the elements of the array at an index. -/
def namesFor (index : UInt16) (s : Section) : List (UInt8 × String) :=
  if Heading.ofName s.name = .ok (.nameList index) then
    s.nameCount.toOption.elim [] (Dictionary.listedNames s)
  else []

/-- What is left of a section when the array at an index is written out. -/
def replaced (index : UInt16) (s : Section) : Option Section :=
  if Heading.ofName s.name = .ok (.object index) then some s.reduced
  else if Heading.ofName s.name = .ok (.nameList index) then none
  else some s

end Section

namespace Sheet

/-- The names that the elements of the array at an index are given. -/
def namesAt (S : Sheet) (index : UInt16) : List (UInt8 × String) :=
  S.sections.flatMap (Section.namesFor index)

/-- The data sheet with the array of a section in short form written out at the end. -/
def expanded (S : Sheet) (index : UInt16) (s : Section) (spell : UInt8 → String) : Sheet :=
  ⟨S.sections.filterMap (Section.replaced index) ++ s.expansion (S.namesAt index) spell⟩

/-- The section is that of an array in short form, and there is no other section about its index
but for one list of names. -/
structure ShortForm (S : Sheet) (index : UInt16) (s : Section) : Prop where
  mem : s ∈ S.sections
  about : s.About (.object index)
  kind : s.IsGroup
  short : s.has "CompactSubObj"
  alone : ∀ t ∈ S.sections, t.Addresses index → t = s
  memberless : ∀ t ∈ S.sections, ∀ k, ¬ t.About (.member index k)
  list : ∀ t ∈ S.sections, ∀ u ∈ S.sections,
    t.About (.nameList index) → u.About (.nameList index) → t = u

end Sheet

/-! ### What the sections of members describe -/

/-- An item that is passed over does not matter, if all items with its key are passed over. -/
theorem Ascending.filter_insert {κ α : Type} [DecidableEq κ] [LT κ] [DecidableLT κ] {f : α → κ}
    {p : α → Bool} {a : α} (h : ∀ b, f b = f a → p b = false) (l : List α) :
    (insert f a l).filter p = l.filter p := by
  induction l with
  | nil => exact List.filter_cons_of_neg (by simp [h a rfl])
  | cons b l ih =>
      unfold insert
      split
      · exact List.filter_cons_of_neg (by simp [h a rfl])
      · split
        next hab =>
          rw [List.filter_cons_of_neg (by simp [h a rfl]),
            List.filter_cons_of_neg (by simp [h b hab.symm])]
        next => rw [List.filter_cons, List.filter_cons, ih]

namespace Section

variable {s : Section} {name title : String}

theorem foldKey_parameterName_mem : foldKey "ParameterName" ∈ ownKeys := by decide

theorem entry?_elementSection {key : String} (hkey : foldKey key ∉ ownKeys) :
    Section.entry? (s.elementSection name title) key = s.entry? key := by
  have hname : (Entry.ofLine "ParameterName" title 0).key ≠ foldKey key := by
    intro h
    rw [← h] at hkey
    exact hkey foldKey_parameterName_mem
  unfold elementSection Section.insert entry?
  rw [Ascending.find?_insert, if_neg hname]
  unfold Ascending.find?
  rw [List.find?_filter]
  refine congrArg (List.find? · s.entries) (funext fun e => ?_)
  by_cases he : e.key = foldKey key
  · simp [he, hkey]
  · simp [he]

theorem value?_elementSection {key : String} (hkey : foldKey key ∉ ownKeys) :
    (s.elementSection name title).value? key = s.value? key := by
  unfold value?
  rw [entry?_elementSection hkey]

theorem family_elementSection {stem : String}
    (hstem : ∀ key ∈ ownKeys, (foldKey stem).toList.isPrefixOf key.toList = false) :
    (s.elementSection name title).family stem = s.family stem := by
  have hname : ∀ e : Entry, e.key = (Entry.ofLine "ParameterName" title 0).key →
      (foldKey stem).toList.isPrefixOf e.key.toList = false := by
    intro e he
    rw [he]
    exact hstem _ foldKey_parameterName_mem
  have hown : ∀ e : Entry, (decide (e.key ∉ ownKeys) &&
      (foldKey stem).toList.isPrefixOf e.key.toList) =
        (foldKey stem).toList.isPrefixOf e.key.toList := by
    intro e
    by_cases he : e.key ∈ ownKeys
    · rw [hstem _ he, Bool.and_false]
    · rw [decide_eq_true he, Bool.true_and]
  unfold elementSection Section.insert family
  dsimp only
  rw [Ascending.filter_insert hname, List.filter_filter]
  refine congrArg (List.map _) (List.filter_congr fun e _ => ?_)
  rw [Bool.and_comm]
  exact hown e

/-- The section of an element gives the attributes that the array in short form gives. -/
theorem sameAttributes_elementSection (s : Section) (name title : String) :
    s.SameAttributes (s.elementSection name title) where
  field f := value?_elementSection (by cases f <;> decide)
  unit := value?_elementSection (by decide)
  description := value?_elementSection (by decide)
  labels := by
    unfold labels
    rw [family_elementSection (by decide)]
  bitFields := by
    unfold bitFields
    rw [family_elementSection (by decide)]

@[simp] theorem title_elementSection (s : Section) (name title : String) :
    (s.elementSection name title).title = title := by
  have hentry : Section.entry? (s.elementSection name title) "ParameterName" =
      some (.ofLine "ParameterName" title 0) :=
    (Ascending.find?_insert _ _ _ _).trans (if_pos rfl)
  unfold Section.title value?
  rw [hentry]
  rfl

end Section

/-! ### The number of elements -/

/-- A count is a number of eight bits for all nodes. -/
theorem Literal.parse?_of_count? {literal : String} {n : UInt8}
    (h : count? literal.toList = some n) (node : Option UInt8) :
    parse? .unsigned8 node literal = some (.unsigned n.toUInt64) := by
  have hinteger := integer?_of_none (count?_eq_some_iff.1 h) node
  have hlt := n.toNat_lt
  change (integer? node literal.toList).bind _ = _
  rw [hinteger, Option.bind_some]
  change (if (n.toNat : Int) < 0 ∨ 255 < (n.toNat : Int) then none
    else some (Value.unsigned (UInt64.ofNat (n.toNat : Int).toNat))) = _
  rw [if_neg (by omega), Int.toNat_natCast, UInt64.ofNat_uInt8ToNat]

theorem Literal.not_omitted_of_count? {literal : String} {n : UInt8}
    (h : count? literal.toList = some n) : ¬ Omitted .unsigned8 literal := by
  rintro (hdomain | hblank)
  · cases hdomain
  · rw [isBlank_of_integer? (count?_eq_some_iff.1 h)] at hblank
    cases hblank

/-- The member that tells the number of elements of an array in short form. -/
theorem Section.countMember_cases {s : Section} {e : Entry} {index : UInt16} {count : Variable}
    (he : s.entry? "CompactSubObj" = some e) (h : (s.countMember index).outcome = .ok count) :
    ∃ n, Literal.count? e.value.toList = some n ∧
      count = { Variable.blank "Number of entries" index 0 with
        dataType := some .unsigned8
        access := .readOnly
        defaultValue := some (.unsigned n.toUInt64) } := by
  unfold countMember at h
  rw [he] at h
  obtain ⟨n, hn, h⟩ := Report.outcome_bind_eq_ok_iff.1 h
  cases h
  refine ⟨n, ?_, rfl⟩
  unfold Entry.count at hn
  cases hcount : Literal.count? e.value.toList with
  | none =>
      rw [hcount] at hn
      cases hn
  | some m =>
      rw [hcount] at hn
      cases hn
      rfl

theorem Section.family_eq_nil {s : Section} {keys : List String} {stem : String}
    (hs : s.entries.map Entry.key = keys)
    (h : ∀ key ∈ keys, (foldKey stem).toList.isPrefixOf key.toList = false) :
    s.family stem = [] := by
  unfold family
  dsimp only
  rw [List.filter_eq_nil_iff.2, List.map_nil]
  intro e he
  rw [h e.key (hs ▸ List.mem_map_of_mem he)]
  exact Bool.false_ne_true

/-- The section for the number of elements describes the member that tells it. -/
theorem Sheet.outcome_variable_countSection (sheet : Sheet) {s : Section} {e : Entry}
    {index : UInt16} {count : Variable} (he : s.entry? "CompactSubObj" = some e)
    (h : (s.countMember index).outcome = .ok count) (name : String) (node : Option UInt8) :
    (sheet.variable (Section.countSection name e.value) ⟨index, 0⟩ node).outcome = .ok count := by
  obtain ⟨n, hn, rfl⟩ := Section.countMember_cases he h
  have hvalue : ((Section.countSection name e.value).typedValue ⟨index, 0⟩ .unsigned8 node
      .defaultValue).outcome = .ok (some (.unsigned n.toUInt64)) := by
    change (Literal.value _ _ _ _ e.value).outcome = _
    rw [Literal.outcome_value, if_neg (Literal.not_omitted_of_count? hn),
      Literal.parse?_of_count? hn]
  -- the other fields have literals of their own, or none
  have hvalues : ∀ v : Variable, v.dataType = some .unsigned8 →
      ((Section.countSection name e.value).values ⟨index, 0⟩ node v).outcome =
        .ok { v with
          lowLimit := none
          highLimit := none
          defaultValue := some (.unsigned n.toUInt64)
          parameterValue := none } := by
    intro v hv
    rw [Section.outcome_values, hv]
    exact Report.bind_eq_ok_iff.2 ⟨none, rfl, Report.bind_eq_ok_iff.2 ⟨none, rfl,
      Report.bind_eq_ok_iff.2 ⟨_, hvalue, Report.bind_eq_ok_iff.2 ⟨none, rfl, rfl⟩⟩⟩⟩
  have htype : (sheet.dataType (Section.countSection name e.value) ⟨index, 0⟩).outcome =
      .ok (some .unsigned8) := rfl
  have haccess : ((Section.countSection name e.value).access ⟨index, 0⟩).outcome =
      .ok .readOnly := rfl
  have hfamily : ∀ {stem}, (∀ key ∈ ["AccessType", "DataType", "DefaultValue",
      "ParameterName"].map foldKey, (foldKey stem).toList.isPrefixOf key.toList = false) →
        (Section.countSection name e.value).family stem = [] := Section.family_eq_nil rfl
  rw [outcome_variable]
  unfold Section.valueDescriptions Section.bitDefinitions
  rw [hfamily (by decide), hfamily (by decide)]
  exact Report.bind_eq_ok_iff.2 ⟨_, htype, Report.bind_eq_ok_iff.2 ⟨_, haccess,
    Report.bind_eq_ok_iff.2 ⟨_, hvalues _ rfl, rfl⟩⟩⟩

/-! ### More types -/

/-- The types that the one data sheet defines, the other one defines alike. -/
def Sheet.TypesIn (S T : Sheet) : Prop :=
  ∀ code type, S.definedType? code = some type → T.definedType? code = some type

namespace Sheet.TypesIn

variable {S T : Sheet} {s t : Section} {node : Option UInt8}

theorem outcome_dataType (h : S.TypesIn T)
    (hst : t.value? Field.dataType.key = s.value? Field.dataType.key) {a : Address}
    {type : Option DataType} (hs : (S.dataType s a).outcome = .ok type) (b : Address) :
    (T.dataType t b).outcome = .ok type := by
  rw [Sheet.outcome_dataType] at hs ⊢
  rw [hst]
  split at hs
  · exact hs
  · split at hs
    · cases hs
    next code _ =>
      split at hs
      next found hfound =>
        have hmore : (DataType.ofCode? code).or (T.definedType? code) = some found :=
          Option.or_eq_some_iff.2
            ((Option.or_eq_some_iff.1 hfound).imp_right (And.imp_right (h code found)))
        rw [hmore]
        exact hs
      · cases hs

/-- A section with the same attributes describes the same variable with more types. -/
theorem outcome_variable_under (h : S.TypesIn T) (hst : s.SameAttributes t) {a : Address}
    {v : Variable} (hv : (S.variable s a node).outcome = .ok v) (b : Address) :
    (T.variable t b node).outcome = .ok (v.under t.title b) := by
  rw [← Report.result?_eq_some_iff] at hv ⊢
  have htype : (T.dataType t b).result? = (S.dataType s a).result? := by
    have hsome := hv
    rw [Sheet.result?_variable] at hsome
    obtain ⟨type, htype, -⟩ := Option.bind_eq_some_iff.1 hsome
    rw [htype]
    exact Report.result?_eq_some_iff.2
      (h.outcome_dataType (hst.field .dataType) (Report.result?_eq_some_iff.1 htype) b)
  rw [hst.result?_variable htype, hv]
  rfl

/-- A variable stands under the name that its section gives, at the address asked for. -/
theorem under_of_variable {a : Address} {v : Variable}
    (hv : (S.variable s a node).outcome = .ok v) : v.under s.title a = v :=
  have hself : S.TypesIn S := fun _ _ htype => htype
  Except.ok.inj ((hself.outcome_variable_under (.refl s) hv a).symm.trans hv)

theorem dataType_eq (h : S.TypesIn T) {a : Address} {type : Option DataType}
    (hs : (S.dataType s a).outcome = .ok type) : T.dataType s a = S.dataType s a := by
  unfold Sheet.dataType at hs ⊢
  cases hliteral : s.value? Field.dataType.key with
  | none => rfl
  | some literal =>
      rw [hliteral] at hs
      dsimp only at hs ⊢
      cases hcode : Literal.typeCode? literal.toList with
      | none => rfl
      | some code =>
          rw [hcode] at hs
          dsimp only at hs ⊢
          cases hknown : DataType.ofCode? code with
          | some t => rfl
          | none =>
              rw [hknown] at hs
              dsimp only at hs ⊢
              cases hdefined : S.definedType? code with
              | none =>
                  rw [hdefined] at hs
                  cases hs
              | some t => rw [h code t hdefined]

/-- A variable that can be read is read in the same way with more types. -/
theorem variable_eq (h : S.TypesIn T) {a : Address} {v : Variable}
    (hv : (S.variable s a node).outcome = .ok v) : T.variable s a node = S.variable s a node := by
  unfold Sheet.variable at hv ⊢
  refine Report.bind_congr_of_ok hv fun name _ hrest => ?_
  obtain ⟨type, htype, -⟩ := Report.outcome_bind_eq_ok_iff.1 hrest
  rw [h.dataType_eq htype]

theorem compactArray_eq (h : S.TypesIn T) {index : UInt16} {g : Group}
    (hg : (S.compactArray s index node).outcome = .ok g) :
    T.compactArray s index node = S.compactArray s index node := by
  unfold Sheet.compactArray at hg ⊢
  refine Report.bind_congr_of_ok hg fun name _ hg => Report.bind_congr_of_ok hg fun count _ hg =>
    Report.bind_congr_of_ok hg fun g _ hg => ?_
  obtain ⟨template, htemplate, -⟩ := Report.outcome_bind_eq_ok_iff.1 hg
  rw [h.variable_eq htemplate]

theorem object_eq (h : S.TypesIn T) {index : UInt16} {o : Object}
    (ho : (S.object s index node).outcome = .ok o) :
    T.object s index node = S.object s index node := by
  unfold Sheet.object at ho ⊢
  refine Report.bind_congr_of_ok ho fun kind _ hrest => ?_
  cases kind with
  | plain =>
      obtain ⟨v, hv, -⟩ := Report.outcome_bind_eq_ok_iff.1 hrest
      dsimp only
      rw [h.variable_eq hv]
  | compact =>
      obtain ⟨g, hg, -⟩ := Report.outcome_bind_eq_ok_iff.1 hrest
      dsimp only
      rw [h.compactArray_eq hg]
  | group kind => rfl

/-- A variable that can be read with some types can be read with more. -/
theorem outcome_variable (h : S.TypesIn T) {a : Address} {v : Variable}
    (hv : (S.variable s a node).outcome = .ok v) : (T.variable s a node).outcome = .ok v := by
  rw [h.variable_eq hv, hv]

theorem outcome_object (h : S.TypesIn T) {index : UInt16} {o : Object}
    (ho : (S.object s index node).outcome = .ok o) : (T.object s index node).outcome = .ok o := by
  rw [h.object_eq ho, ho]

/-- What a section adds in the first run with some types, it adds with more. -/
theorem contribution (h : S.TypesIn T) {x : Section × Heading} {c : Contribution}
    (hc : S.contribution node x = some c) : T.contribution node x = some c := by
  obtain ⟨s, heading⟩ := x
  cases heading with
  | object index =>
      obtain ⟨o, ho, rfl⟩ := Option.map_eq_some_iff.1 hc
      refine Option.map_eq_some_iff.2 ⟨o, ?_, rfl⟩
      exact Report.result?_eq_some_iff.2 (h.outcome_object (Report.result?_eq_some_iff.1 ho))
  | commissioning | dummyUsage | member index subindex | nameList index | other => exact hc

end Sheet.TypesIn

/-! ### The names of definitions -/

namespace Heading

/-- Four digits spell an index. -/
theorem index_upperHex (i : UInt16) : Index (Text.upperHex 4 i.toNat).toList i := by
  refine ⟨?_, Text.number?_upperHex 4 i.toNat⟩
  have hlength : (Nat.toDigits 16 i.toNat).length ≤ 4 :=
    Nat.toDigits_length 16 i.toNat 4 (by omega) i.toNat_lt
  rw [Text.upperHex, String.toList_ofList, List.length_leftpad, List.length_map]
  omega

/-- The name with four digits of a definition is that of a member. -/
theorem spelled_upperHex (code : UInt16) :
    Spelled (Text.upperHex 4 code.toNat ++ "sub1").toList (.member code 1) := by
  have hsub : "sub1".toList = "sub".toList ++ ['1'] := rfl
  rw [String.toList_append, hsub]
  exact .member (index_upperHex code) (.inl rfl) rfl

/-- Digits end where the first other character stands. -/
theorem eq_of_digits_append {digits digits' tail tail' : List Char}
    (hd : ∀ c ∈ digits, Text.isDigit 16 c) (hd' : ∀ c ∈ digits', Text.isDigit 16 c)
    (ht : ∀ c, tail.head? = some c → Text.isDigit 16 c = false)
    (ht' : ∀ c, tail'.head? = some c → Text.isDigit 16 c = false)
    (h : digits ++ tail = digits' ++ tail') : digits = digits' ∧ tail = tail' := by
  have hnone : ∀ {t : List Char}, (∀ c, t.head? = some c → Text.isDigit 16 c = false) →
      t.takeWhile (Text.isDigit 16) = [] := by
    intro t ht
    cases t with
    | nil => rfl
    | cons c t => exact List.takeWhile_cons_of_neg (by simp [ht c rfl])
  have hdigits := congrArg (List.takeWhile (Text.isDigit 16)) h
  rw [List.takeWhile_append_of_pos hd, List.takeWhile_append_of_pos hd', hnone ht, hnone ht',
    List.append_nil, List.append_nil] at hdigits
  refine ⟨hdigits, ?_⟩
  rw [hdigits] at h
  exact List.append_cancel_left h

theorem Announces.head? {word : List Char} (h : Announces word) (rest : List Char) :
    ∀ c, (word ++ rest).head? = some c → Text.isDigit 16 c = false := by
  intro c hc
  rcases h with rfl | rfl <;> cases hc <;> decide

/-- The digit at the end tells a name with a subindex from the two words. -/
theorem not_sameFolded_of_getLast? {s t : List Char} (h : s.getLast? = some '1')
    (ht : t.getLast?.map Char.toLower ≠ some '1') : ¬ Text.sameFolded s t := by
  intro hs
  have hlast := congrArg List.getLast? ((Text.sameFolded_iff _ _).1 hs)
  unfold Text.lower at hlast
  rw [List.getLast?_map, List.getLast?_map, h] at hlast
  exact ht hlast.symm

/-- The name of a definition is digits of the code that it defines, and the mark of the first
subindex. -/
theorem exists_digits_of_definitionName {code : UInt16} {name : String}
    (hname : name ∈ definitionNames code) : ∃ digits,
      Text.number? 16 digits = some code.toNat ∧ name.toList = digits ++ "sub1".toList := by
  have hwritten : ∀ width, ∃ digits, Text.number? 16 digits = some code.toNat ∧
      (Text.upperHex width code.toNat ++ "sub1").toList = digits ++ "sub1".toList :=
    fun width => ⟨_, Text.number?_upperHex width code.toNat, String.toList_append⟩
  rcases List.mem_cons.1 hname with rfl | hname
  · exact hwritten 1
  · rw [List.mem_singleton.1 hname]
    exact hwritten 4

/-- The name of a definition is about the first member at the code that it defines, or about
nothing. -/
theorem Spelled.of_definitionName {code : UInt16} {name : String}
    (hname : name ∈ definitionNames code) {h : Heading} (hs : Spelled name.toList h) :
    h = .member code 1 := by
  obtain ⟨digits, hnumber, hdigits⟩ := exists_digits_of_definitionName hname
  have hdigit := Text.isDigit_of_number? hnumber
  have hsub : ∀ c, "sub1".toList.head? = some c → Text.isDigit 16 c = false :=
    Announces.head? (.inl rfl) ['1']
  have hlast : name.toList.getLast? = some '1' := by
    rw [hdigits]
    exact List.getLast?_append_of_ne_nil _ (by decide)
  generalize name.toList = s at hs hdigits hlast
  cases hs with
  | object index =>
      rw [← List.append_nil s] at hdigits
      have hnil : ∀ c, ([] : List Char).head? = some c → Text.isDigit 16 c = false := by
        intro c hc
        cases hc
      cases (eq_of_digits_append (Text.isDigit_of_number? index.2) hdigit hnil hsub hdigits).2
  | nameList index =>
      have hword : ∀ c, "Name".toList.head? = some c → Text.isDigit 16 c = false := by
        intro c hc
        cases hc
        decide
      cases (eq_of_digits_append (Text.isDigit_of_number? index.2) hdigit hword hsub hdigits).2
  | @member digits' word rest i k index announced subindex =>
      obtain ⟨rfl, htail⟩ := eq_of_digits_append (Text.isDigit_of_number? index.2) hdigit
        (announced.head? rest) hsub hdigits
      have hi : i = code := UInt16.toNat.inj (Option.some.inj (index.2.symm.trans hnumber))
      have hk : k = 1 := by
        rcases announced with rfl | rfl
        · cases htail
          exact UInt8.toNat.inj (Option.some.inj subindex.symm)
        · cases htail
      rw [hi, hk]
  | dummyUsage word => exact absurd word (not_sameFolded_of_getLast? hlast (by decide))
  | commissioning word => exact absurd word (not_sameFolded_of_getLast? hlast (by decide))

end Heading

/-! ### Types after an array is written out -/

/-- The sections of the members of an array written out.  The name of an element is that of the
array, or it is listed. -/
theorem Section.mem_expansion {s t : Section} {names : List (UInt8 × String)}
    {spell : UInt8 → String} (h : t ∈ s.expansion names spell) :
    t = countSection (spell 0) ((s.value? "CompactSubObj").getD "") ∨
      ∃ k title, t = s.elementSection (spell k) title ∧
        (title = s.title ∨ ∃ j, (j, title) ∈ names) := by
  unfold expansion at h
  rcases List.mem_cons.1 h with rfl | h
  · exact .inl rfl
  rcases List.mem_cons.1 h with rfl | h
  · refine .inr ⟨1, _, rfl, ?_⟩
    cases hlookup : names.lookup 1 with
    | none => exact .inl rfl
    | some name =>
        obtain ⟨before, after, rfl, -⟩ := List.lookup_eq_some_iff.1 hlookup
        exact .inr ⟨1, List.mem_append_right before List.mem_cons_self⟩
  · obtain ⟨x, hx, rfl⟩ := List.mem_map.1 h
    exact .inr ⟨x.1, x.2, rfl, .inr ⟨x.1, List.mem_of_mem_filter hx⟩⟩

theorem Section.name_mem_expansion {s t : Section} {names : List (UInt8 × String)}
    {spell : UInt8 → String} (h : t ∈ s.expansion names spell) : ∃ k, t.name = spell k := by
  rcases mem_expansion h with rfl | ⟨k, title, rfl, -⟩
  · exact ⟨0, rfl⟩
  · exact ⟨k, rfl⟩

/-- What is left of a section is the section or its reduced form. -/
theorem Section.replaced_cases {index : UInt16} {s t : Section} (h : s.replaced index = some t) :
    t = s ∨ t = s.reduced := by
  unfold replaced at h
  split at h
  · exact .inr (Option.some.inj h).symm
  · split at h
    · cases h
    · exact .inl (Option.some.inj h).symm

theorem Section.name_replaced {index : UInt16} {s t : Section} (h : s.replaced index = some t) :
    t.name = s.name := by
  rcases replaced_cases h with rfl | rfl <;> rfl

namespace Sheet

variable {S : Sheet} {index : UInt16} {s : Section} {spell : UInt8 → String}

/-- The sections for members have names that spell their addresses. -/
def Spells (index : UInt16) (spell : UInt8 → String) : Prop :=
  ∀ k, Heading.Spelled (spell k).toList (.member index k)

/-- A section about something else is found as before. -/
theorem find?_expanded (hspell : Spells index spell) {name : String}
    (hobject : ¬ Heading.Spelled name.toList (.object index))
    (hlist : ¬ Heading.Spelled name.toList (.nameList index))
    (hmember : ∀ k, ¬ Heading.Spelled name.toList (.member index k)) :
    (S.expanded index s spell).find? name = S.find? name := by
  have hkept : ∀ t : Section, t.name = name → t.replaced index = some t := by
    intro t ht
    unfold Section.replaced
    rw [if_neg fun hs => hobject (ht ▸ Section.about_of hs nofun),
      if_neg fun hs => hlist (ht ▸ Section.about_of hs nofun)]
  have hnew : (s.expansion (S.namesAt index) spell).find? (fun t => t.name = name) = none := by
    rw [List.find?_eq_none]
    intro t ht hname
    obtain ⟨k, hk⟩ := Section.name_mem_expansion ht
    have hname : t.name = name := by simpa using hname
    exact hmember k (hname ▸ hk ▸ hspell k)
  unfold find? expanded
  rw [List.find?_append, hnew, Option.or_none]
  induction S.sections with
  | nil => rfl
  | cons t sections ih =>
      by_cases ht : t.name = name
      · rw [List.filterMap_cons_some (hkept t ht), List.find?_cons_of_pos (by simpa using ht),
          List.find?_cons_of_pos (by simpa using ht)]
      · rw [List.find?_cons_of_neg (by simpa using ht), ← ih]
        cases hr : t.replaced index with
        | none => rw [List.filterMap_cons_none hr]
        | some u =>
            rw [List.filterMap_cons_some hr, List.find?_cons_of_neg]
            simpa [Section.name_replaced hr] using ht

/-- A definition is found as before, if it does not have the name of an element of the array. -/
theorem find?_expanded_of_definition (hspell : Spells index spell) {code : UInt16} {name : String}
    (hname : name ∈ definitionNames code)
    (hmember : ¬ Heading.Spelled name.toList (.member index 1)) :
    (S.expanded index s spell).find? name = S.find? name := by
  refine find?_expanded hspell (fun hs => ?_) (fun hs => ?_) fun k hs => ?_
  · cases hs.of_definitionName hname
  · cases hs.of_definitionName hname
  · cases hs.of_definitionName hname
    exact hmember hs

namespace ShortForm

/-- What is found is no member of the array. -/
theorem not_member_of_find? (h : S.ShortForm index s) {name : String} {t : Section}
    (ht : S.find? name = some t) (k : UInt8) :
    ¬ Heading.Spelled name.toList (.member index k) := by
  intro hs
  have hname : t.name = name := by simpa using List.find?_some ht
  rw [← hname] at hs
  exact h.memberless t (List.mem_of_find?_eq_some ht) k hs

/-- A definition stays what it is after an array is written out. -/
theorem definition?_expanded (h : S.ShortForm index s) (hspell : Spells index spell)
    {code : UInt16} {t : Section} (ht : S.definition? code = some t) :
    (S.expanded index s spell).definition? code = some t := by
  have hshort : Text.upperHex 1 code.toNat ++ "sub1" ∈ definitionNames code := List.mem_cons_self
  have hlong : Text.upperHex 4 code.toNat ++ "sub1" ∈ definitionNames code :=
    List.mem_cons_of_mem _ List.mem_cons_self
  unfold definition? at ht ⊢
  unfold definitionNames at ht ⊢
  rw [List.findSome?_cons, List.findSome?_singleton] at ht ⊢
  by_cases hcode : code = index
  · -- the name with all its digits is that of an element, so the other one was found
    subst hcode
    cases hfound : S.find? (Text.upperHex 1 code.toNat ++ "sub1") with
    | some u =>
        rw [hfound] at ht
        rw [find?_expanded_of_definition hspell hshort (h.not_member_of_find? hfound 1), hfound]
        exact ht
    | none =>
        rw [hfound] at ht
        exact absurd (Heading.spelled_upperHex code) (h.not_member_of_find? ht 1)
  · have hother : ∀ name ∈ definitionNames code,
        ¬ Heading.Spelled name.toList (.member index 1) := by
      intro name hname hs
      cases hs.of_definitionName hname
      exact hcode rfl
    rw [find?_expanded_of_definition hspell hshort (hother _ hshort),
      find?_expanded_of_definition hspell hlong (hother _ hlong)]
    exact ht

/-- Writing an array out takes no type away. -/
theorem typesIn_expanded (h : S.ShortForm index s) (hspell : Spells index spell) :
    S.TypesIn (S.expanded index s spell) := by
  intro code type htype
  unfold definedType? at htype ⊢
  obtain ⟨t, ht, htype⟩ := Option.bind_eq_some_iff.1 htype
  exact Option.bind_eq_some_iff.2 ⟨t, h.definition?_expanded hspell ht, htype⟩

end ShortForm

end Sheet

end DataSheet
