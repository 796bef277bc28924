/-
**Definitions of types with leading zeros.**

A type outside the vocabulary is looked up under two names: its code as it is, and its code with
four digits.  A definition with four digits defines the same type as one with fewer, but its name is
also that of the first member of the object at the code.  Such an object need not exist, and then
the data sheet is refused.

Main definitions:

* `Sheet.padded` — the definition of a code is renamed to have four digits;
* `Sheet.Defines` — a section defines a code, with fewer digits, and says nothing else.

Main results:

* `Sheet.Defines.definedType?_padded` — renaming a definition keeps all types;
* `Sheet.not_variableFault_of_keys` — what a definition says can be read as a variable;
* `Sheet.Defines.outcome_dictionary_padded` — the data sheet with the definition renamed;
* `padded_definition_is_member` — **a definition with four digits defines the same type, but where
  no object stands at its code, nothing can be read**.
-/

import DataSheet.Proofs.Ignored

set_option relaxedAutoImplicit false
set_option autoImplicit false

namespace DataSheet

/-! ### Definitions renamed -/

/-- The section, renamed if it is the definition of a code without leading zeros. -/
def Section.padded (code : UInt16) (s : Section) : Section :=
  if s.name = shortName code then { s with name := paddedName code } else s

/-- The data sheet with the definition of a code renamed to have four digits. -/
def Sheet.padded (S : Sheet) (code : UInt16) : Sheet := ⟨S.sections.map (Section.padded code)⟩

/-- The keys with which a definition gets by. -/
def definitionKeys : List String := ["ParameterName", "DefaultValue"].map foldKey

/-- A section defines a code in fewer than four digits and says nothing else, and no section has the
name with four. -/
structure Sheet.Defines (S : Sheet) (code : UInt16) (s : Section) : Prop where
  mem : s ∈ S.sections
  name : s.name = shortName code
  keys : ∀ e ∈ s.entries, e.key ∈ definitionKeys
  free : ∀ t ∈ S.sections, t.name ≠ paddedName code

/-- The names of definitions tell the codes apart. -/
theorem code_eq_of_definitionNames {code other : UInt16} {name : String}
    (h : name ∈ definitionNames code) (h' : name ∈ definitionNames other) : code = other := by
  obtain ⟨digits, hnumber, hname⟩ := Heading.exists_digits_of_definitionName h
  obtain ⟨digits', hnumber', hname'⟩ := Heading.exists_digits_of_definitionName h'
  have hsub : ∀ c, "sub1".toList.head? = some c → Text.isDigit 16 c = false :=
    Heading.Announces.head? (.inl rfl) ['1']
  obtain ⟨rfl, -⟩ := Heading.eq_of_digits_append (Text.isDigit_of_number? hnumber)
    (Text.isDigit_of_number? hnumber') hsub hsub (hname.symm.trans hname')
  exact UInt16.toNat.inj (Option.some.inj (hnumber.symm.trans hnumber'))

/-! ### What a definition says -/

theorem Section.value?_eq_none {s : Section} {keys : List String} {key : String}
    (hs : ∀ e ∈ s.entries, e.key ∈ keys) (hkey : foldKey key ∉ keys) : s.value? key = none := by
  have hnone : s.entry? key = none := by
    unfold entry? Ascending.find?
    rw [List.find?_eq_none]
    intro e he hfound
    rw [decide_eq_true_eq] at hfound
    exact hkey (hfound ▸ hs e he)
  rw [value?, hnone]
  rfl

/-- A section without a type that gives neither access nor factor, labels or bits can be read as a
variable. -/
theorem Sheet.not_variableFault_of_keys {sheet : Sheet} {node : Option UInt8} {s : Section}
    {a : Address} (hs : ∀ e ∈ s.entries, e.key ∈ definitionKeys)
    (f : Fault) : ¬ sheet.VariableFault node s a f := by
  have hnone : ∀ {field : Field}, foldKey field.key ∉ definitionKeys →
      ∀ {literal}, s.value? field.key ≠ some literal := by
    intro field hfield literal hliteral
    cases (Section.value?_eq_none hs hfield).symm.trans hliteral
  have hfamily : ∀ {stem}, (∀ key ∈ definitionKeys,
      (foldKey stem).toList.isPrefixOf key.toList = false) → s.family stem = [] := by
    intro stem hstem
    refine Section.family_eq_nil rfl fun key hkey => ?_
    obtain ⟨e, he, rfl⟩ := List.mem_map.1 hkey
    exact hstem _ (hs e he)
  intro h
  cases h with
  | dataType bad => exact hnone (by decide) bad.choose_spec.1
  | unknownType given => exact hnone (by decide) given.choose_spec.1
  | accessType bad => exact hnone (by decide) bad.choose_spec.1
  | value _ type =>
      obtain ⟨code, given, -⟩ := type
      exact hnone (by decide) given.choose_spec.1
  | factor bad => exact hnone (by decide) bad.choose_spec.1
  | valueDescription mem =>
      rw [hfamily (by decide)] at mem
      cases mem
  | bitDefinition mem =>
      rw [hfamily (by decide)] at mem
      cases mem

/-- A section without a type that gives neither access nor factor, labels or bits is passed over
without a fault of its own. -/
theorem Sheet.outcome_passOver_of_keys {sheet : Sheet} {s : Section}
    (hs : ∀ e ∈ s.entries, e.key ∈ definitionKeys)
    (node : Option UInt8) (found : Except Fault Object) (i : UInt16) (k : UInt8) :
    (sheet.passOver node found s (.member i k)).outcome = found.map fun _ => () := by
  have hfails : FailsFor (sheet.VariableFault node s ⟨i, k⟩)
      (sheet.variable s ⟨i, k⟩ node).outcome := failsFor_variable
  unfold passOver
  rw [Report.outcome_bind]
  cases hv : (sheet.variable s ⟨i, k⟩ node).outcome with
  | error f =>
      rw [hv] at hfails
      exact absurd hfails (not_variableFault_of_keys hs f)
  | ok v => cases found <;> rfl

/-! ### The data sheet with a definition renamed -/

/-- A section about nothing has no part in the runs. -/
theorem Sheet.runs_append_cons_other (sheet : Sheet) (node : Option UInt8)
    (t : Section) (before after : List (Section × Heading)) :
    sheet.runs node (before ++ (t, .other) :: after) = sheet.runs node (before ++ after) := by
  have hidle : ∀ {f : Dictionary → Section × Heading → Step Dictionary},
      (∀ d, f d (t, .other) = pure d) → (fun d => (before ++ (t, .other) :: after).foldlM f d) =
        fun d => (before ++ after).foldlM f d :=
    fun hf => funext (Report.foldlM_append_cons_of_idle hf before after)
  unfold runs
  rw [congrFun (hidle fun _ => rfl)]
  refine congrArg (_ >>= ·) (funext fun d => ?_)
  rw [congrFun (hidle fun _ => rfl), hidle fun _ => rfl]

namespace Sheet.Defines

variable {S : Sheet} {code : UInt16} {s : Section} {node : Option UInt8} {d : Dictionary}

theorem shortName_ne (h : S.Defines code s) : shortName code ≠ paddedName code := by
  rw [← h.name]
  exact h.free s h.mem

/-- The name without leading zeros is about nothing. -/
theorem not_about (h : S.Defines code s) (heading : Heading) : ¬ s.About heading := by
  intro habout
  unfold Section.About at habout
  rw [h.name] at habout
  exact h.shortName_ne habout.shortName_eq

theorem eq_of_headed (h : S.Defines code s) {x : Section × Heading} (hx : s.headed = .ok x) :
    x = (s, .other) := by
  unfold Section.headed at hx
  split at hx
  next heading hheading =>
    cases hx
    by_contra hne
    exact h.not_about heading (Section.about_of hheading fun hother => hne (by rw [hother]))
  next => cases hx

/-- Only the definition is renamed. -/
theorem exists_split (h : S.Defines code s) (hS : S.Proper) : ∃ before after,
    S = ⟨before ++ s :: after⟩ ∧
      S.padded code = ⟨before ++ { s with name := paddedName code } :: after⟩ ∧
      (∀ t ∈ before ++ after, t.name ≠ shortName code) ∧
      ∀ t ∈ before ++ after, t.name ≠ paddedName code := by
  obtain ⟨before, after, hsections⟩ := List.append_of_mem h.mem
  obtain ⟨sections⟩ := S
  dsimp only at hsections
  subst hsections
  have hnew : ∀ t ∈ before ++ after, t.name ≠ shortName code := h.name ▸ hS.name_ne
  have hkept : ∀ sections ⊆ before ++ after, sections.map (Section.padded code) = sections := by
    intro sections hsub
    have hsame : ∀ t ∈ sections, t.padded code = id t := fun t ht => if_neg (hnew t (hsub ht))
    rw [List.map_congr_left hsame, List.map_id]
  refine ⟨before, after, rfl, ?_, hnew, fun t ht => h.free t ?_⟩
  · unfold padded
    rw [List.map_append, List.map_cons, hkept before (List.subset_append_left _ _),
      hkept after (List.subset_append_right _ _), Section.padded, if_pos h.name]
  · rcases List.mem_append.1 ht with ht | ht
    · exact List.mem_append_left _ ht
    · exact List.mem_append_right _ (List.mem_cons_of_mem s ht)

/-- **Renaming a definition keeps all types**: it is found under the one name or the other. -/
theorem definedType?_padded (h : S.Defines code s) (hS : S.Proper) (other : UInt16) :
    (S.padded code).definedType? other = S.definedType? other := by
  obtain ⟨before, after, hsplit, hpadded, hshort, hlong⟩ := h.exists_split hS
  have hfind : ∀ name, S.find? name =
      if shortName code = name then some s else (Sheet.mk (before ++ after)).find? name := by
    intro name
    rw [hsplit, find?_insert (h.name ▸ hshort), h.name]
  have hfind' : ∀ name, (S.padded code).find? name =
      if paddedName code = name then some { s with name := paddedName code }
        else (Sheet.mk (before ++ after)).find? name := by
    intro name
    rw [hpadded]
    exact find?_insert (t := { s with name := paddedName code }) hlong name
  by_cases hother : other = code
  · subst hother
    have hnone : (Sheet.mk (before ++ after)).find? (shortName other) = none :=
      List.find?_eq_none.2 fun t ht => by simpa using hshort t ht
    have hS : S.definition? other = some s := by
      rw [definition?_eq, hfind, if_pos rfl, Option.some_or]
    have hT : (S.padded other).definition? other = some { s with name := paddedName other } := by
      rw [definition?_eq, hfind', if_neg h.shortName_ne.symm, hnone, Option.none_or, hfind',
        if_pos rfl]
    unfold definedType?
    rw [hS, hT]
    rfl
  · have hsame : ∀ name ∈ definitionNames other, (S.padded code).find? name = S.find? name := by
      intro name hname
      have hne : ∀ name' ∈ definitionNames code, name' ≠ name := by
        rintro name' hname' rfl
        exact hother (code_eq_of_definitionNames hname hname')
      rw [hfind, hfind', if_neg (hne _ (shortName_mem code)), if_neg (hne _ (paddedName_mem code))]
    have hdefinition : (S.padded code).definition? other = S.definition? other := by
      rw [definition?_eq, definition?_eq, hsame _ (shortName_mem other),
        hsame _ (paddedName_mem other)]
    unfold definedType?
    rw [hdefinition]

/-- **The data sheet with the definition renamed** gives the same dictionary where a plain variable
stands at the code, and none where nothing stands there. -/
theorem outcome_dictionary_padded (h : S.Defines code s) (hS : S.Proper)
    (hd : (S.dictionary node).outcome = .ok d) (hcode : d.Groupless code) :
    ((S.padded code).dictionary node).outcome = (d.get (.index code)).map fun _ => d := by
  obtain ⟨before, after, hsplit, hpadded, -, -⟩ := h.exists_split hS
  have htypes : S.TypesIn (S.padded code) := fun other type htype =>
    (h.definedType?_padded hS other).trans htype
  have hmember : Section.About { s with name := paddedName code } (.member code 1) :=
    Heading.spelled_upperHex code
  -- the definition is about nothing before it is renamed, and about a member afterwards
  obtain ⟨headed, -, -, hheaded, -⟩ := outcome_dictionary_eq_ok_iff.1 hd
  rw [dictionary_eq_runs hheaded] at hd
  rw [hsplit] at hheaded
  obtain ⟨first, x, rest, hfirst, hx, hrest, rfl⟩ := Report.mapM_append_cons_eq_ok_iff.1 hheaded
  rw [h.eq_of_headed hx, runs_append_cons_other] at hd
  have hall : (S.padded code).sections.mapM Section.headed =
      .ok (first ++ ({ s with name := paddedName code }, .member code 1) :: rest) := by
    rw [hpadded]
    exact Report.mapM_append_cons_eq_ok_iff.2 ⟨_, _, _, hfirst, hmember.headed_eq, hrest, rfl⟩
  have hkeys : ∀ e ∈ Section.entries { s with name := paddedName code }, e.key ∈ definitionKeys :=
    h.keys
  have hown := (S.padded code).outcome_passOver_of_keys hkeys node (d.get (.index code)) code 1
  have hbelow : (Heading.member code 1).Below code := .inr ⟨1, rfl⟩
  have hinterposed := interposed_runs (x := ({ s with name := paddedName code }, .member code 1))
    htypes hbelow hd hcode
  rw [dictionary_eq_runs hall, hinterposed.outcome hd, hown]
  cases d.get (.index code) <;> rfl

end Sheet.Defines

/-- **A definition with four digits is a member as well.**  Let a text be read as a data sheet in
which a section defines a code in fewer digits and says nothing else, and another text as the same
data sheet with this definition renamed to have four digits.  All codes lead to the same types in
both.  But the renamed definition is about the first member of the object at the code: where no
section gives such an object, the other text is refused for that reason, whatever the first one
gives.  It gives the same dictionary where a plain variable stands at the code. -/
theorem padded_definition_is_member {text text' : String} {node : Option UInt8} {S : Sheet}
    {code : UInt16} {s : Section} {d : Dictionary} (hS : (Sheet.ofText text).outcome = .ok S)
    (hs : S.Defines code s) (hT : (Sheet.ofText text').outcome = .ok (S.padded code))
    (hd : (Dictionary.ofText text node).outcome = .ok d) :
    (∀ other, (S.padded code).definedType? other = S.definedType? other) ∧
      ((∀ t ∈ S.sections, ¬ t.Addresses code) →
        (Dictionary.ofText text' node).outcome = .error (.notFound (.index code))) ∧
      ∀ v, d.find? code = some (.plain v) → (Dictionary.ofText text' node).outcome = .ok d := by
  have hproper := Sheet.proper_ofText hS
  rw [Dictionary.outcome_ofText hS] at hd
  rw [Dictionary.outcome_ofText hT]
  refine ⟨hs.definedType?_padded hproper, fun hnone => ?_, fun v hv => ?_⟩
  · have hfind : d.find? code = none := by
      obtain ⟨headed, d₁, d₂, hheaded, h₁, h₂, h₃⟩ := Sheet.outcome_dictionary_eq_ok_iff.1 hd
      have hframes := (Sheet.sameFrames_afterSecond h₂).trans (Sheet.sameFrames_afterThird h₃)
      rw [hframes.find?_eq_none_iff]
      exact (Sheet.furnished_afterFirst hheaded h₁ code).2 hnone
    have hgroupless : d.Groupless code := fun g hg => by cases hfind.symm.trans hg
    rw [hs.outcome_dictionary_padded hproper hd hgroupless, Dictionary.get_index, hfind]
    rfl
  · have hgroupless : d.Groupless code := fun g hg => by cases hv.symm.trans hg
    rw [hs.outcome_dictionary_padded hproper hd hgroupless, Dictionary.get_index, hv]
    rfl

/-- With a variable at the code, either name of the definition gives the same. -/
theorem padded_definition_is_member_variable : ∃ d,
    (Dictionary.ofText "[00A0]\nDataType=0xA0\n[A0sub1]\nDefaultValue=7\n" none).outcome = .ok d ∧
    (Dictionary.ofText "[00A0]\nDataType=0xA0\n[00A0sub1]\nDefaultValue=7\n" none).outcome =
      .ok d := by
  have hS : (Sheet.ofText "[00A0]\nDataType=0xA0\n[A0sub1]\nDefaultValue=7\n").outcome =
      .ok ⟨[⟨"00A0", 1, [⟨"datatype", "DataType", "0xA0", 2⟩]⟩,
        ⟨"A0sub1", 3, [⟨"defaultvalue", "DefaultValue", "7", 4⟩]⟩]⟩ := by
    decide +kernel
  have hdefines : Sheet.Defines ⟨[⟨"00A0", 1, [⟨"datatype", "DataType", "0xA0", 2⟩]⟩,
      ⟨"A0sub1", 3, [⟨"defaultvalue", "DefaultValue", "7", 4⟩]⟩]⟩ 0xA0
        ⟨"A0sub1", 3, [⟨"defaultvalue", "DefaultValue", "7", 4⟩]⟩ :=
    ⟨List.mem_cons_of_mem _ List.mem_cons_self, by decide, by decide, by decide⟩
  have hT : (Sheet.ofText "[00A0]\nDataType=0xA0\n[00A0sub1]\nDefaultValue=7\n").outcome =
      .ok (Sheet.padded ⟨[⟨"00A0", 1, [⟨"datatype", "DataType", "0xA0", 2⟩]⟩,
        ⟨"A0sub1", 3, [⟨"defaultvalue", "DefaultValue", "7", 4⟩]⟩]⟩ 0xA0) := by
    decide +kernel
  have hd : (Dictionary.ofText "[00A0]\nDataType=0xA0\n[A0sub1]\nDefaultValue=7\n" none).outcome =
      .ok (.insert .empty
        (.plain { Variable.blank "00A0" 0xA0 0 with dataType := some .unsigned32 })) := by
    decide +kernel
  exact ⟨_, hd, (padded_definition_is_member hS hdefines hT hd).2.2 _ rfl⟩

/-- Without an object at the code, the definition with four digits makes the text fail. -/
theorem padded_definition_is_member_noObject : ∃ (text text' : String) (S : Sheet) (s : Section)
    (d : Dictionary), DataType.ofCode? 0xA0 = none ∧
    text = "[2000]\nParameterName=X\nDataType=0xA0\n[A0sub1]\nDefaultValue=7\n" ∧
    (Sheet.ofText text).outcome = .ok S ∧ S.Defines 0xA0 s ∧
    (∀ t ∈ S.sections, ∀ h, t.About h → h = .object 0x2000) ∧
    (Dictionary.ofText text none).outcome = .ok d ∧
    text' = "[2000]\nParameterName=X\nDataType=0xA0\n[00A0sub1]\nDefaultValue=7\n" ∧
    (Sheet.ofText text').outcome = .ok (S.padded 0xA0) ∧
    (Dictionary.ofText text' none).outcome = .error (.notFound (.index 0xA0)) := by
  have hdefines : Sheet.Defines ⟨[⟨"2000", 1, [⟨"datatype", "DataType", "0xA0", 3⟩,
      ⟨"parametername", "ParameterName", "X", 2⟩]⟩,
        ⟨"A0sub1", 4, [⟨"defaultvalue", "DefaultValue", "7", 5⟩]⟩]⟩ 0xA0
          ⟨"A0sub1", 4, [⟨"defaultvalue", "DefaultValue", "7", 5⟩]⟩ :=
    ⟨List.mem_cons_of_mem _ List.mem_cons_self, by decide, by decide, by decide⟩
  refine ⟨_, _, _, _, .insert .empty
      (.plain { Variable.blank "X" 0x2000 0 with dataType := some .unsigned32 }),
    by decide, rfl, by decide +kernel, hdefines, ?_, by decide +kernel, rfl, by decide +kernel,
    by decide +kernel⟩
  rintro t ht h habout
  rcases List.mem_cons.1 ht with rfl | ht
  · exact habout.unique (Section.about_of (by decide) nofun)
  · cases List.mem_singleton.1 ht
    exact absurd habout (hdefines.not_about h)

end DataSheet
