/-
**A text with an array in short form, and one with the array written out.**

The data sheet of a text in which an array stands in short form can be written with the array
written out.  It has the shape of what is read, so it is read back from its text, and the dictionary
that it gives cannot be told from that of the short form.

Main definitions:

* `Section.memberName` — the names of the sections of members, as they are mostly spelled.

Main results:

* `Sheet.ShortForm.proper_expanded`, `Sheet.ShortForm.writable_expanded` — a data sheet with an
  array written out has the shape of what is read;
* `short_form_written_out` — **a text with an array in short form and one with the array written out
  give the same dictionary**.
-/

import DataSheet.Proofs.Rendered
import DataSheet.Proofs.ShortForm

set_option relaxedAutoImplicit false
set_option autoImplicit false

namespace DataSheet

/-! ### The names of sections of members -/

/-- A text without blanks is neat. -/
theorem neat_of_not_isBlank {s : String} (h : ∀ c ∈ s.toList, Text.isBlank c = false) : Neat s where
  trimmed := Text.trim_of_not_isBlank h
  oneLine := by
    intro hmem
    cases h '\n' hmem

/-- The name of the section of a member is neat. -/
theorem Heading.Spelled.neat_of_member {name : String} {i : UInt16} {k : UInt8}
    (h : Spelled name.toList (.member i k)) : name ≠ "" ∧ Neat name := by
  generalize hs : name.toList = s at h
  cases h with
  | @member digits word rest _ _ index announced subindex =>
      constructor
      · rintro rfl
        have hlength := congrArg List.length hs
        rw [List.length_append, index.1] at hlength
        have hempty : "".toList.length = 0 := rfl
        omega
      · refine neat_of_not_isBlank fun c hc => ?_
        rw [hs] at hc
        rcases List.mem_append.1 hc with hc | hc
        · exact Text.not_isBlank_of_isDigit (Text.isDigit_of_number? index.2 c hc)
        rcases List.mem_append.1 hc with hc | hc
        · have hword : word.all fun c => !Text.isBlank c := by
            rcases announced with rfl | rfl <;> decide
          simpa using List.all_eq_true.1 hword c hc
        · exact Text.not_isBlank_of_isDigit (Text.isDigit_of_number? subindex c hc)

/-- The name of the section of a member, as it is mostly spelled. -/
def Section.memberName (s : Section) (k : UInt8) : String :=
  s.name ++ "sub" ++ Text.upperHex 1 k.toNat

theorem Sheet.spells_memberName {s : Section} {index : UInt16} (h : s.About (.object index)) :
    Spells index s.memberName := by
  intro k
  unfold Section.About at h
  unfold Section.memberName
  rw [String.toList_append, String.toList_append, List.append_assoc]
  generalize s.name.toList = digits at h
  cases h with
  | object index => exact .member index (.inl rfl) (Text.number?_upperHex 1 k.toNat)

/-! ### The shape of what is written out -/

namespace Section

variable {s : Section}

theorem neat_value? (hs : s.Writable) {key value : String} (h : s.value? key = some value) :
    Neat value := by
  obtain ⟨e, he, rfl⟩ := Option.map_eq_some_iff.1 h
  exact (hs.entries e (List.mem_of_find?_eq_some he)).value

theorem neat_title (hs : s.Writable) : Neat s.title := by
  unfold Section.title
  cases htitle : s.value? "ParameterName" with
  | none => exact hs.name
  | some title => exact neat_value? hs htitle

end Section

/-- An entry under a fixed key can be written. -/
theorem Entry.Writable.ofLine {key value : String}
    (hkey : key ∈ ["ObjectType", "ParameterName", "AccessType", "DataType", "DefaultValue"])
    (hvalue : Neat value) (n : Nat) : (Entry.ofLine key value n).Writable := by
  have hkeys : ∀ key ∈ ["ObjectType", "ParameterName", "AccessType", "DataType", "DefaultValue"],
      key ≠ "" ∧ Sheet.KeyPart key.toList ∧ Text.trim key.toList = key.toList ∧
        OneLine key.toList := by decide
  obtain ⟨hgiven, hpart, htrimmed, honeLine⟩ := hkeys key hkey
  exact ⟨hgiven, hpart, ⟨htrimmed, honeLine⟩, hvalue⟩

namespace Section

variable {s : Section}

theorem writable_reduced (hs : s.Writable) : s.reduced.Writable where
  given := hs.given
  name := hs.name
  entries := by
    intro e he
    rcases List.mem_cons.1 he with rfl | he
    · exact .ofLine (by decide) ⟨by decide, by decide⟩ 0
    · rw [List.mem_singleton.1 he]
      exact .ofLine (by decide) (neat_title hs) 0

theorem writable_countSection {name literal : String} (hgiven : name ≠ "") (hname : Neat name)
    (hliteral : Neat literal) : (countSection name literal).Writable where
  given := hgiven
  name := hname
  entries := by
    have hfixed : Neat "ro" ∧ Neat "0x0005" ∧ Neat "Number of entries" :=
      ⟨⟨by decide, by decide⟩, ⟨by decide, by decide⟩, ⟨by decide, by decide⟩⟩
    unfold countSection
    simp only [List.forall_mem_cons, List.not_mem_nil, false_imp_iff, implies_true, and_true]
    exact ⟨.ofLine (by decide) hfixed.1 0, .ofLine (by decide) hfixed.2.1 0,
      .ofLine (by decide) hliteral 0, .ofLine (by decide) hfixed.2.2 0⟩

theorem writable_elementSection (hs : s.Writable) {name title : String} (hgiven : name ≠ "")
    (hname : Neat name) (htitle : Neat title) : (s.elementSection name title).Writable where
  given := hgiven
  name := hname
  entries := by
    intro e he
    rcases Ascending.eq_or_mem_of_mem_insert _ _ _ _ he with rfl | he
    · exact .ofLine (by decide) htitle 0
    · exact hs.entries e (List.mem_of_mem_filter he)

theorem proper_reduced (s : Section) : s.reduced.Proper where
  ascends := by
    have hkeys : (["ObjectType", "ParameterName"].map foldKey).Pairwise (· < ·) := by decide
    exact (List.pairwise_map (f := Entry.key)).1 hkeys
  folded := by
    intro e he
    rcases List.mem_cons.1 he with rfl | he
    · rfl
    · rw [List.mem_singleton.1 he]
      rfl

theorem proper_countSection (name literal : String) : (countSection name literal).Proper where
  ascends := by
    have hkeys : (["AccessType", "DataType", "DefaultValue", "ParameterName"].map
      foldKey).Pairwise (· < ·) := by decide
    exact (List.pairwise_map (f := Entry.key)).1 hkeys
  folded := by
    unfold countSection
    simp only [List.forall_mem_cons, List.not_mem_nil, false_imp_iff, implies_true, and_true]
    exact ⟨rfl, rfl, rfl, rfl⟩

theorem proper_elementSection (hs : s.Proper) (name title : String) :
    (s.elementSection name title).Proper := by
  have hkept : Section.Proper ⟨name, 0, s.entries.filter fun e => e.key ∉ ownKeys⟩ :=
    ⟨hs.ascends.filter _, fun e he => hs.folded e (List.mem_of_mem_filter he)⟩
  exact hkept.insert "ParameterName" title 0

end Section

namespace Sheet

variable {S : Sheet} {index : UInt16} {s : Section} {spell : UInt8 → String}

/-- The sections after an array is written out. -/
theorem mem_expanded {t : Section} (h : t ∈ (S.expanded index s spell).sections) :
    (∃ u ∈ S.sections, t = u ∨ t = u.reduced) ∨ t ∈ s.expansion (S.namesAt index) spell := by
  rcases List.mem_append.1 h with h | h
  · obtain ⟨u, hu, hreplaced⟩ := List.mem_filterMap.1 h
    exact .inl ⟨u, hu, Section.replaced_cases hreplaced⟩
  · exact .inr h

/-- A listed name is a value of a section. -/
theorem exists_value_of_mem_namesAt {k : UInt8} {name : String} (h : (k, name) ∈ S.namesAt index) :
    ∃ t ∈ S.sections, ∃ key, t.value? key = some name := by
  obtain ⟨t, ht, h⟩ := List.mem_flatMap.1 h
  rcases t.namesFor_cases index with hnone | ⟨-, count, hnames⟩
  · rw [hnone] at h
    cases h
  · rw [hnames] at h
    exact ⟨t, ht, _, (Dictionary.mem_listedNames.1 h).2.2⟩

/-- What is written out can be written. -/
theorem ShortForm.writable_expanded (hs : S.ShortForm index s) (hspell : Spells index spell)
    (hw : ∀ t ∈ S.sections, t.Writable) :
    ∀ t ∈ (S.expanded index s spell).sections, t.Writable := by
  have hown := hw s hs.mem
  intro t ht
  rcases mem_expanded ht with ⟨u, hu, rfl | rfl⟩ | ht
  · exact hw t hu
  · exact Section.writable_reduced (hw u hu)
  · rcases Section.mem_expansion ht with rfl | ⟨k, title, rfl, htitle⟩
    · obtain ⟨hgiven, hname⟩ := (hspell 0).neat_of_member
      refine Section.writable_countSection hgiven hname ?_
      cases hvalue : s.value? "CompactSubObj" with
      | none => exact ⟨by decide, by decide⟩
      | some literal => exact Section.neat_value? hown hvalue
    · obtain ⟨hgiven, hname⟩ := (hspell k).neat_of_member
      refine Section.writable_elementSection hown hgiven hname ?_
      rcases htitle with rfl | ⟨j, hlisted⟩
      · exact Section.neat_title hown
      · obtain ⟨u, hu, key, hvalue⟩ := exists_value_of_mem_namesAt hlisted
        exact Section.neat_value? (hw u hu) hvalue

/-- The names of the sections of members are distinct. -/
theorem ShortForm.nodup_names_expansion (hs : S.ShortForm index s) (hS : S.Proper)
    (hspell : Spells index spell) :
    ((s.expansion (S.namesAt index) spell).map Section.name).Nodup := by
  have hnames : (s.expansion (S.namesAt index) spell).map Section.name =
      (0 :: 1 :: ((S.namesAt index).filter fun x => 1 < x.1).map Prod.fst).map spell := by
    unfold Section.expansion
    rw [List.map_cons, List.map_cons, List.map_map, List.map_cons, List.map_cons, List.map_map]
    rfl
  have hinjective : Function.Injective spell := by
    intro j k hjk
    have hj := (hspell j).ofName_eq
    rw [hjk, (hspell k).ofName_eq] at hj
    cases hj
    rfl
  rw [hnames]
  have hlisted : (((S.namesAt index).filter fun x => 1 < x.1).map Prod.fst).Pairwise (· < ·) :=
    List.pairwise_map.2 ((hs.ascends_namesAt hS).filter _)
  have hone : ∀ k ∈ ((S.namesAt index).filter fun x => 1 < x.1).map Prod.fst, 1 < k := by
    intro k hk
    obtain ⟨x, hx, rfl⟩ := List.mem_map.1 hk
    simpa using List.of_mem_filter hx
  refine List.Nodup.map hinjective (List.Pairwise.imp UInt8.ne_of_lt ?_)
  refine List.pairwise_cons.2 ⟨fun k hk => ?_, List.pairwise_cons.2 ⟨hone, hlisted⟩⟩
  rcases List.mem_cons.1 hk with rfl | hk
  · decide
  · exact UInt8.lt_trans (by decide) (hone k hk)

/-- What is written out has distinct names and keys. -/
theorem ShortForm.proper_expanded (hs : S.ShortForm index s) (hS : S.Proper)
    (hspell : Spells index spell) : (S.expanded index s spell).Proper where
  distinct := by
    unfold expanded
    rw [List.map_append]
    refine List.nodup_append.2 ⟨?_, hs.nodup_names_expansion hS hspell, ?_⟩
    · refine List.pairwise_map.2 (List.pairwise_filterMap.2 ?_)
      refine (List.pairwise_map.1 hS.distinct).imp fun htu t' ht' u' hu' => ?_
      rw [Section.name_replaced ht', Section.name_replaced hu']
      exact htu
    · intro name hname name' hname' hsame
      obtain ⟨t', ht', rfl⟩ := List.mem_map.1 hname
      obtain ⟨t, ht, hreplaced⟩ := List.mem_filterMap.1 ht'
      obtain ⟨u, hu, rfl⟩ := List.mem_map.1 hname'
      obtain ⟨k, hk⟩ := Section.name_mem_expansion hu
      -- there was no section of a member before
      have habout : t.About (.member index k) := by
        unfold Section.About
        rw [← Section.name_replaced hreplaced, hsame, hk]
        exact hspell k
      exact hs.memberless t ht k habout
  sections := by
    intro t ht
    rcases mem_expanded ht with ⟨u, hu, rfl | rfl⟩ | ht
    · exact hS.sections t hu
    · exact u.proper_reduced
    · rcases Section.mem_expansion ht with rfl | ⟨k, title, rfl, -⟩
      · exact Section.proper_countSection _ _
      · exact Section.proper_elementSection (hS.sections s hs.mem) _ _

end Sheet

/-! ### Texts -/

/-- **A text with an array in short form and one with the array written out give the same
dictionary.**  The data sheet with the array written out is read back from its text; and from every
text of it, with the lines of a section in any order and keys in any letter case, a dictionary is
read for every node for which one is read from the short form, and the two cannot be told apart. -/
theorem short_form_written_out {text : String} {S : Sheet} {index : UInt16} {s : Section}
    {spell : UInt8 → String} (hS : (Sheet.ofText text).outcome = .ok S)
    (hs : S.ShortForm index s) (hspell : Sheet.Spells index spell) :
    (∃ T, (Sheet.ofText (S.expanded index s spell).render).outcome = .ok T ∧
      (S.expanded index s spell).Restates T) ∧
    ∀ text' T, (Sheet.ofText text').outcome = .ok T → (S.expanded index s spell).Restates T →
      ∀ node d, (Dictionary.ofText text node).outcome = .ok d →
        ∃ e, (Dictionary.ofText text' node).outcome = .ok e ∧ d.Indistinct e := by
  have hproper := Sheet.proper_ofText hS
  constructor
  · have hsome : (S.expanded index s spell).sections ≠ [] :=
      List.append_ne_nil_of_right_ne_nil _ (List.cons_ne_nil _ _)
    exact Sheet.ofText_render (hs.proper_expanded hproper hspell)
      (hs.writable_expanded hspell (Sheet.writable_ofText hS)) hsome
  · intro text' T hT hrestates node d hd
    obtain ⟨S', hS', hd⟩ := Dictionary.outcome_ofText_eq_ok_iff.1 hd
    cases hS.symm.trans hS'
    obtain ⟨e, he, hde⟩ := hs.dictionary_expanded hproper hspell hd
    refine ⟨e, Dictionary.outcome_ofText_eq_ok_iff.2 ⟨T, hT, ?_⟩, hde⟩
    rw [← Report.result?_eq_some_iff] at he ⊢
    rw [hrestates.result?_dictionary node, he]

/-- An array in short form and the list of its names. -/
theorem Sheet.shortForm_of_pair {s t : Section} {index : UInt16} (hs : s.About (.object index))
    (ht : t.About (.nameList index)) (hkind : s.IsGroup) (hshort : s.has "CompactSubObj") :
    (Sheet.mk [s, t]).ShortForm index s where
  mem := List.mem_cons_self
  about := hs
  kind := hkind
  short := hshort
  alone := by
    intro u hu haddresses
    rcases List.mem_cons.1 hu with rfl | hu
    · rfl
    · cases List.mem_singleton.1 hu
      rcases haddresses with habout | ⟨habout, -⟩
      · cases ht.unique habout
      · cases ht.unique habout
  memberless := by
    intro u hu k habout
    rcases List.mem_cons.1 hu with rfl | hu
    · cases hs.unique habout
    · cases List.mem_singleton.1 hu
      cases ht.unique habout
  list := by
    intro u hu v hv hul hvl
    rcases List.mem_cons.1 hu with rfl | hu
    · cases hs.unique hul
    · rcases List.mem_cons.1 hv with rfl | hv
      · cases hs.unique hvl
      · exact (List.mem_singleton.1 hu).trans (List.mem_singleton.1 hv).symm

/-- An array of two elements relative to the node, the second of which has a name. -/
theorem short_form_written_out_speed : ∃ text S s,
    text = "[2000]\nParameterName=Speed\nObjectType=8\nCompactSubObj=2\nDataType=5\n" ++
      "DefaultValue=$NODEID+1\n[2000Name]\nNrOfEntries=2\n2=Right" ∧
    (Sheet.ofText text).outcome = .ok S ∧ S.ShortForm 0x2000 s ∧
    Sheet.Spells 0x2000 s.memberName ∧
    (S.expanded 0x2000 s s.memberName).render =
      "[2000]\nObjectType=9\nParameterName=Speed\n" ++
      "[2000sub0]\nAccessType=ro\nDataType=0x0005\nDefaultValue=2\n" ++
      "ParameterName=Number of entries\n" ++
      "[2000sub1]\nDataType=5\nDefaultValue=$NODEID+1\nParameterName=Speed\n" ++
      "[2000sub2]\nDataType=5\nDefaultValue=$NODEID+1\nParameterName=Right\n" ∧
    ∃ d e, (Dictionary.ofText text (some 5)).outcome = .ok d ∧
      (Dictionary.ofText (S.expanded 0x2000 s s.memberName).render (some 5)).outcome = .ok e ∧
      d.Indistinct e := by
  have hS : (Sheet.ofText ("[2000]\nParameterName=Speed\nObjectType=8\nCompactSubObj=2\n" ++
      "DataType=5\nDefaultValue=$NODEID+1\n[2000Name]\nNrOfEntries=2\n2=Right")).outcome =
        .ok ⟨[⟨"2000", 1, [⟨"compactsubobj", "CompactSubObj", "2", 4⟩,
            ⟨"datatype", "DataType", "5", 5⟩, ⟨"defaultvalue", "DefaultValue", "$NODEID+1", 6⟩,
            ⟨"objecttype", "ObjectType", "8", 3⟩, ⟨"parametername", "ParameterName", "Speed", 2⟩]⟩,
          ⟨"2000Name", 7, [⟨"2", "2", "Right", 9⟩, ⟨"nrofentries", "NrOfEntries", "2", 8⟩]⟩]⟩ := by
    decide +kernel
  have hobject : Section.About ⟨"2000", 1, [⟨"compactsubobj", "CompactSubObj", "2", 4⟩,
      ⟨"datatype", "DataType", "5", 5⟩, ⟨"defaultvalue", "DefaultValue", "$NODEID+1", 6⟩,
      ⟨"objecttype", "ObjectType", "8", 3⟩, ⟨"parametername", "ParameterName", "Speed", 2⟩]⟩
        (.object 0x2000) := Section.about_of (by decide) nofun
  have hs := Sheet.shortForm_of_pair
    (t := ⟨"2000Name", 7, [⟨"2", "2", "Right", 9⟩, ⟨"nrofentries", "NrOfEntries", "2", 8⟩]⟩)
    hobject (Section.about_of (by decide) nofun)
    ⟨.record, ⟨"objecttype", "ObjectType", "8", 3⟩, by decide, by decide⟩ (by decide)
  have hspell := Sheet.spells_memberName hobject
  obtain ⟨⟨T, hT, hrestates⟩, hread⟩ := short_form_written_out hS hs hspell
  have hok : ((Sheet.ofText ("[2000]\nParameterName=Speed\nObjectType=8\nCompactSubObj=2\n" ++
      "DataType=5\nDefaultValue=$NODEID+1\n[2000Name]\nNrOfEntries=2\n2=Right")).outcome >>=
        fun S => (S.dictionary (some 5)).outcome).toOption.isSome := by
    rw [hS]
    decide +kernel
  rw [hS] at hok
  obtain ⟨d, hd⟩ := Report.exists_of_isSome hok
  have hd := Dictionary.outcome_ofText_eq_ok_iff.2 ⟨_, hS, hd⟩
  obtain ⟨e, he, hde⟩ := hread _ T hT hrestates (some 5) d hd
  exact ⟨_, _, _, rfl, hS, hs, hspell, by decide +kernel, d, e, hd, he, hde⟩

end DataSheet
