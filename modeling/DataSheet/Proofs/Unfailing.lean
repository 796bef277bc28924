/-
**Reading runs no hazard.**

The dictionary of a text is built here step by step as a machine builds it: the names of sections
are cut behind their indices, counts and bitrates are computed in words of fixed width, and the
passes run over the sections by position, with a guard at each of these operations.  Every step is
shown to do what its counterpart without guards does, so none of the guards ever strikes.

Main definitions:

* `Guarded.heading` — what the name of a section tells, by cuts;
* `Guarded.commission`, `Guarded.addDummies`, `Guarded.addNames`, `Document.addObject`,
  `Document.addMember` — what a section of each kind adds;
* `Document.dictionary`, `Guarded.ofText` — the dictionary of the sections, and of a text.

Main results:

* `Guarded.heading_eq` — **names are cut without hazard**;
* `Guarded.commission_eq` — **the bitrate is computed without hazard**;
* `Document.dictionary_eq` — the passes over the sections run no hazard;
* `reading_runs_no_hazard` — **a text is read without hazard**, to the same dictionary or fault and
  with the same notices as without guards.
-/

import DataSheet.Proofs.Headings
import DataSheet.Proofs.Runs
import DataSheet.Proofs.SectionNames
import DataSheet.Proofs.Stems

set_option relaxedAutoImplicit false
set_option autoImplicit false

namespace DataSheet

open Guarded (ofStep bind_ofStep)

variable {doc : Document}

/-! ### Headings -/

/-- Digits denote a number. -/
theorem Text.exists_number? {base : Nat} {s : List Char} (hne : s ≠ [])
    (h : ∀ c ∈ s, isDigit base c) : ∃ n, number? base s = some n := by
  have hgo : ∀ n, ∃ m, continueNumber? base n s = some m := by
    clear hne
    induction s with
    | nil => exact fun n => ⟨n, rfl⟩
    | cons c s ih =>
        intro n
        obtain ⟨d, hd⟩ := Option.isSome_iff_exists.1 (h c List.mem_cons_self)
        obtain ⟨m, hm⟩ := ih (fun e he => h e (List.mem_cons_of_mem c he)) (base * n + d)
        refine ⟨m, ?_⟩
        rw [continueNumber?, hd]
        exact hm
  unfold number?
  rw [if_neg hne]
  exact hgo 0

namespace Guarded

/-- The text takes four bytes, all of them hexadecimal digits. -/
def isIndex (s : List Char) : Bool :=
  Text.size s == 4 && (Text.utf8 s).all fun b => Text.isDigit 16 (Char.ofUInt8 b)

/-- The index that digits denote. -/
def index (s : List Char) : UInt16 := UInt16.ofNat ((Text.number? 16 s).getD 0)

/-- What a name tells that may open with an index.  It is cut behind its fourth byte, if it has more
than seven and a character ends there. -/
def indexed (s : List Char) : Guarded (Except Malformation Heading) :=
  if isIndex s then pure (.ok (.object (index s)))
  else if 7 < Text.size s ∧ (Text.cut? 4 s).isSome then do
    let head ← front 4 s
    if isIndex head then do
      let parts ← cut 4 s
      pure (Heading.ofTail (index parts.1) parts.2)
    else pure (.ok .other)
  else pure (.ok .other)

/-- What the section of this name is about. -/
def heading (name : String) : Guarded (Except Malformation Heading) :=
  let s := name.toList
  if Text.sameFolded s "DummyUsage".toList then pure (.ok .dummyUsage)
  else if Text.sameFolded s "DeviceComissioning".toList then pure (.ok .commissioning)
  else indexed s

theorem size_of_isIndex {s : List Char} (h : isIndex s) : Text.size s = 4 :=
  beq_iff_eq.1 (Bool.and_eq_true_iff.1 h).1

theorem isIndex_iff {s : List Char} :
    isIndex s ↔ s.length = 4 ∧ ∀ c ∈ s, Text.isDigit 16 c := by
  have hascii : ∀ c, Text.isDigit 16 c → c.toNat < 128 := fun c hc => by
    have hone := Char.utf8Size_eq_one_iff.1 (Text.utf8Size_of_isDigit hc)
    exact Nat.lt_succ_of_le (UInt32.le_iff_toNat_le.1 hone)
  unfold isIndex
  rw [Bool.and_eq_true, beq_iff_eq, Text.all_utf8_iff hascii]
  refine and_congr_left fun hdigits => ?_
  rw [Text.size_eq_length fun c hc => Text.utf8Size_of_isDigit (hdigits c hc)]

/-- Four bytes are the digits of an index exactly if they denote one. -/
theorem isIndex_iff_index {s : List Char} : isIndex s ↔ ∃ i, Heading.Index s i := by
  rw [isIndex_iff]
  constructor
  · rintro ⟨hlength, hdigits⟩
    have hne : s ≠ [] := by
      rintro rfl
      cases hlength
    obtain ⟨n, hn⟩ := Text.exists_number? hne hdigits
    have hlt := Text.number?_lt hn
    rw [hlength] at hlt
    exact ⟨UInt16.ofNat n, hlength, by rw [hn, UInt16.toNat_ofNat_of_lt' hlt]⟩
  · rintro ⟨i, hlength, hn⟩
    exact ⟨hlength, fun c hc => Text.isDigit_of_number? hn c hc⟩

theorem index_eq {s : List Char} {i : UInt16} (h : Heading.Index s i) : index s = i := by
  unfold index
  rw [h.2, Option.getD_some, UInt16.ofNat_toNat]

/-- What follows an index has at least four bytes, if it tells anything. -/
theorem ofTail_of_size_lt {i : UInt16} {tail : List Char} (hne : tail ≠ [])
    (hsize : Text.size tail < 4) : Heading.ofTail i tail = .ok .other := by
  unfold Heading.ofTail
  rw [if_neg hne, if_neg]
  · cases hrest : (Heading.subindexDigits? tail).bind (Text.number? 16) with
    | none => rfl
    | some n =>
        obtain ⟨rest, hrest, hn⟩ := Option.bind_eq_some_iff.1 hrest
        obtain ⟨word, hword, rfl⟩ := Heading.subindexDigits?_eq_some_iff.1 hrest
        have hthree : Text.size word = 3 := by
          rcases hword with rfl | rfl <;> rfl
        rw [Text.size_append, hthree] at hsize
        have hzero : Text.size rest = 0 := by omega
        rw [Text.size_eq_zero_iff.1 hzero] at hn
        cases hn
  · rintro rfl
    exact absurd hsize (by decide)

/-- Without an index at its front a name tells nothing. -/
theorem indexed_of_none {s : List Char} (h : Heading.index? s = none) :
    indexed s = pure (.ok .other) := by
  have hno : ∀ a b, s = a ++ b → ¬ isIndex a := fun a b hs ha => by
    obtain ⟨i, hi⟩ := isIndex_iff_index.1 ha
    rw [Heading.index?_eq_some_iff.2 ⟨a, hi, hs⟩] at h
    cases h
  unfold indexed
  rw [if_neg (hno s [] (List.append_nil s).symm)]
  split
  next hcut =>
    obtain ⟨⟨a, b⟩, hab⟩ := Option.isSome_iff_exists.1 hcut.2
    obtain ⟨rfl, hsize⟩ := Text.cut?_eq_some_iff.1 hab
    rw [← hsize, front_append, pure_bind, if_neg (hno a b rfl)]
  next => rfl

/-- The digits of an index take four bytes, so the cut is behind them. -/
theorem indexed_append {digits : List Char} {i : UInt16} (hi : Heading.Index digits i)
    (tail : List Char) : indexed (digits ++ tail) = pure (Heading.ofTail i tail) := by
  have hdigits := isIndex_iff_index.2 ⟨i, hi⟩
  have hfour := size_of_isIndex hdigits
  unfold indexed
  by_cases htail : tail = []
  · subst htail
    rw [List.append_nil, if_pos hdigits, index_eq hi]
    rfl
  have hlonger : ¬ isIndex (digits ++ tail) := fun h => by
    have hsize := size_of_isIndex h
    rw [Text.size_append, hfour] at hsize
    exact htail (Text.size_eq_zero_iff.1 (by omega))
  have hcut := cut_append digits tail
  have hfront := front_append digits tail
  have hborder := Text.cut?_append digits tail
  rw [hfour] at hcut hfront hborder
  rw [if_neg hlonger, hborder, Text.size_append, hfour]
  split
  · rw [hfront, pure_bind, if_pos hdigits, hcut, pure_bind, index_eq hi]
  next hshort =>
    have hle : ¬ 7 < 4 + Text.size tail := fun h => hshort ⟨h, rfl⟩
    rw [ofTail_of_size_lt htail (by omega)]

/-- **Names are cut without hazard.** -/
theorem heading_eq (name : String) : heading name = pure (Heading.ofName name) := by
  unfold heading Heading.ofName
  generalize name.toList = s
  dsimp only
  split
  · rfl
  split
  · rfl
  cases hindex : Heading.index? s with
  | none => exact indexed_of_none hindex
  | some found =>
      obtain ⟨i, tail⟩ := found
      obtain ⟨digits, hi, rfl⟩ := Heading.index?_eq_some_iff.1 hindex
      exact indexed_append hi tail

/-- A section with what it is about. -/
def headed (s : Section) : Guarded (Section × Heading) := do
  match ← heading s.name with
  | .ok h => pure (s, h)
  | .error how => .fail (.fault (.malformed s.line how))

theorem headed_eq (s : Section) : headed s = ofStep (.ofExcept s.headed) := by
  unfold headed Section.headed
  rw [heading_eq, pure_bind]
  cases Heading.ofName s.name <;> rfl

/-! ### Counts and products -/

/-- The count in an entry, which must not be above 255. -/
def entryCount (e : Entry) (how : Malformation) : Guarded UInt8 := do
  match ← count e.value.toList with
  | some n => pure n
  | none => .fail (.fault (.malformed e.line how))

theorem entryCount_eq (e : Entry) (how : Malformation) :
    entryCount e how = ofStep (e.count how) := by
  unfold entryCount Entry.count
  rw [count_eq, pure_bind]
  cases Literal.count? e.value.toList <;> rfl

/-- The bitrate, which is given in kilobits per second. -/
def commission (d : Dictionary) (s : Section) : Guarded Dictionary :=
  match s.entry? "Baudrate" with
  | none => pure d
  | some e => do
    match ← integer none e.value.toList with
    | none => .fail (.fault (.malformed e.line .baudrate))
    | some n => do
      let bits ← wide (n * 1000)
      if 0 ≤ bits ∧ bits < 0x100000000 then
        pure { d with bitrate := some (UInt32.ofNat bits.toNat) }
      else .fail (.fault (.malformed e.line .baudrate))

/-- A literal that does not regard a node has at most 64 bits and a sign. -/
theorem bounds_of_integer? {s : List Char} {n : Int} (h : Literal.integer? none s = some n) :
    -2 ^ 64 < n ∧ n < 2 ^ 64 := by
  have hbound : ∀ {t m}, Literal.magnitude? t = some m → m < 2 ^ 64 := fun hm => by
    simpa using (Option.filter_eq_some_iff.1 hm).2
  have hsigned : Literal.signed? (Literal.splitTerm (Literal.compact s)).1 = some n := by
    unfold Literal.integer? at h
    dsimp only at h
    split at h
    · cases h
    · exact h
  rcases Literal.magnitude?_of_signed? hsigned with
    ⟨t, m, -, hm, rfl⟩ | ⟨t, m, -, hm, rfl⟩ | ⟨m, hm, rfl⟩
  all_goals
    have hm := hbound hm
    omega

/-- **The bitrate is computed without hazard.** -/
theorem commission_eq (d : Dictionary) (s : Section) :
    commission d s = ofStep (d.commission s) := by
  unfold commission Dictionary.commission
  cases s.entry? "Baudrate" with
  | none => rfl
  | some e =>
      dsimp only
      rw [integer_eq, pure_bind]
      unfold Entry.integer?
      cases hn : Literal.integer? none e.value.toList with
      | none => rfl
      | some n =>
          obtain ⟨hlow, hhigh⟩ := bounds_of_integer? hn
          have hwide : Literal.Wide (n * 1000) := ⟨by omega, by omega⟩
          have hsign : 0 ≤ n * 1000 ∧ n * 1000 < 0x100000000 ↔
              0 ≤ n ∧ n * 1000 < 0x100000000 := by omega
          dsimp only
          rw [wide_eq hwide, pure_bind]
          simp only [hsign]
          exact ite_ofStep rfl rfl

/-- Adds the dummy objects that a section turns on. -/
def addDummies (d : Dictionary) (s : Section) : Guarded Dictionary :=
  [1, 2, 3, 4, 5, 6, 7].foldlM
    (fun d i =>
      match s.entry? (Dictionary.dummyKey i) with
      | none => pure d
      | some e => do
        let n ← integer none e.value.toList
        if n = some 1 then ofStep (d.define (.plain (Dictionary.dummy i))) else pure d)
    d

theorem addDummies_eq (d : Dictionary) (s : Section) :
    addDummies d s = ofStep (d.addDummies s) := by
  unfold addDummies Dictionary.addDummies Dictionary.dummies
  rw [List.foldlM_filter]
  refine foldlM_ofStep (fun d i _ => ?_) d
  cases s.entry? (Dictionary.dummyKey i) with
  | none => rfl
  | some e =>
      dsimp only
      rw [integer_eq, pure_bind, Option.bind_some]
      unfold Entry.integer?
      by_cases hon : Literal.integer? none e.value.toList = some 1
      · rw [if_pos hon, if_pos (decide_eq_true hon)]
      · rw [if_neg hon, if_neg (mt of_decide_eq_true hon)]
        rfl

/-! ### Parts of objects -/

/-- The kind of object that a section describes. -/
def objectKind (s : Section) : Guarded ObjectKind :=
  match s.entry? "ObjectType" with
  | none => pure .plain
  | some e => do
    match ← integer none e.value.toList with
    | none => .fail (.fault (.malformed e.line .objectTypeNotInteger))
    | some code =>
      if code = 7 ∨ code = 2 then pure .plain
      else if code = 8 ∨ code = 9 then
        if s.has "CompactSubObj" then pure .compact
        else pure (.group (if code = 8 then .record else .array))
      else .fail (.fault (.malformed e.line .objectTypeUnsupported))

/-- The member that tells how many elements a compact array has. -/
def countMember (s : Section) (index : UInt16) : Guarded Variable := do
  let blank : Variable :=
    { Variable.blank "Number of entries" index 0 with
      dataType := some .unsigned8
      access := .readOnly }
  match s.entry? "CompactSubObj" with
  | none => pure blank
  | some e => do
    let n ← entryCount e .compactCount
    pure { blank with defaultValue := some (.unsigned n.toUInt64) }

/-- Adds the members that a list of names gives. -/
def addNames (d : Dictionary) (s : Section) (index : UInt16) : Guarded Dictionary := do
  let count ←
    match s.entry? "NrOfEntries" with
    | none => pure 0
    | some e => entryCount e .nameCount
  match ← ofStep (.ofExcept (d.get (.index index))) with
  | .plain _ => do
    .note (.notAGroup s.name index)
    pure d
  | .group g => do
    let template ← ofStep (.ofExcept (g.element Group.templateSubindex.toUInt16))
    ofStep ((Dictionary.listedNames s count).foldlM (Dictionary.addName index template.get) d)

theorem objectKind_eq (s : Section) : objectKind s = ofStep s.objectKind := by
  unfold objectKind Section.objectKind
  cases s.entry? "ObjectType" with
  | none => rfl
  | some e =>
      dsimp only
      rw [integer_eq, pure_bind]
      unfold Entry.integer?
      cases Literal.integer? none e.value.toList with
      | none => rfl
      | some code => exact ite_ofStep rfl (ite_ofStep (ite_ofStep rfl rfl) rfl)

theorem countMember_eq (s : Section) (index : UInt16) :
    countMember s index = ofStep (s.countMember index) := by
  unfold countMember Section.countMember
  dsimp only
  cases s.entry? "CompactSubObj" with
  | none => rfl
  | some e => exact bind_ofStep (entryCount_eq e .compactCount) fun _ => rfl

theorem addNames_eq (d : Dictionary) (s : Section) (index : UInt16) :
    addNames d s index = ofStep (d.addNames s index) := by
  -- what is done with the count does not depend on where it comes from
  have hrest : ∀ {k : UInt8 → Guarded Dictionary} {k' : UInt8 → Step Dictionary},
      (∀ n, k n = ofStep (k' n)) →
      (match s.entry? "NrOfEntries" with
        | none => pure 0 >>= k
        | some e => entryCount e .nameCount >>= k) =
      ofStep (match s.entry? "NrOfEntries" with
        | none => pure 0 >>= k'
        | some e => e.count .nameCount >>= k') := by
    intro k k' hk
    cases s.entry? "NrOfEntries" with
    | none => exact bind_ofStep rfl hk
    | some e => exact bind_ofStep (entryCount_eq e .nameCount) hk
  unfold addNames Dictionary.addNames
  refine hrest fun n => bind_ofStep rfl fun o => ?_
  cases o with
  | plain v => rfl
  | group g => exact bind_ofStep rfl fun _ => rfl

end Guarded

/-! ### Objects -/

/-- An array in short form. -/
def Document.compactArray (doc : Document) (s : Section) (index : UInt16) (node : Option UInt8) :
    Guarded Group := do
  let name ← ofStep s.parameterName
  let count ← Guarded.countMember s index
  let g ← ofStep ((Group.empty .array name index).define count)
  let template ← doc.variable s ⟨index, Group.templateSubindex⟩ node
  ofStep (g.define template)

/-- The object that a section describes at an index. -/
def Document.object (doc : Document) (s : Section) (index : UInt16) (node : Option UInt8) :
    Guarded Object := do
  match ← Guarded.objectKind s with
  | .plain => do
    let v ← doc.variable s ⟨index, 0⟩ node
    pure (.plain v)
  | .compact => do
    let g ← doc.compactArray s index node
    pure (.group g)
  | .group kind => do
    let name ← ofStep s.parameterName
    pure (.group { Group.empty kind name index with
      description := (s.value? "Description").getD "" })

/-- Adds the object that a section describes. -/
def Document.addObject (doc : Document) (d : Dictionary) (s : Section) (index : UInt16) :
    Guarded Dictionary := do
  let o ← doc.object s index d.nodeId
  .note (.objectBuilt index o.name s.name)
  ofStep (d.define o)

/-- Adds the member that a section describes. -/
def Document.addMember (doc : Document) (d : Dictionary) (s : Section) (address : Address) :
    Guarded Dictionary := do
  let v ← doc.variable s address d.nodeId
  match ← ofStep (.ofExcept (d.get (.index address.index))) with
  | .plain _ => do
    .note (.notAGroup s.name address.index)
    pure d
  | .group g => do
    let d ← ofStep (d.defineMember address.index g v)
    .note (.memberAttached address s.name)
    pure d

section Objects

variable (h : doc.Indexed) {s : Section} (hs : s.Proper)

include h hs

theorem Document.compactArray_eq (index : UInt16) (node : Option UInt8) :
    doc.compactArray s index node = ofStep (doc.sheet.compactArray s index node) := by
  unfold Document.compactArray Sheet.compactArray
  refine bind_ofStep rfl fun name => ?_
  refine bind_ofStep (Guarded.countMember_eq s index) fun count => ?_
  refine bind_ofStep rfl fun g => ?_
  exact bind_ofStep (Document.variable_eq h hs _ node) fun template => rfl

theorem Document.object_eq (index : UInt16) (node : Option UInt8) :
    doc.object s index node = ofStep (doc.sheet.object s index node) := by
  unfold Document.object Sheet.object
  refine bind_ofStep (Guarded.objectKind_eq s) fun kind => ?_
  cases kind with
  | plain => exact bind_ofStep (Document.variable_eq h hs _ node) fun v => rfl
  | compact => exact bind_ofStep (Document.compactArray_eq h hs index node) fun g => rfl
  | group kind => exact bind_ofStep rfl fun name => rfl

theorem Document.addObject_eq (d : Dictionary) (index : UInt16) :
    doc.addObject d s index = ofStep (d.addObject doc.sheet s index) := by
  unfold Document.addObject Dictionary.addObject
  refine bind_ofStep (Document.object_eq h hs index d.nodeId) fun o => ?_
  exact bind_ofStep rfl fun _ => rfl

theorem Document.addMember_eq (d : Dictionary) (address : Address) :
    doc.addMember d s address = ofStep (d.addMember doc.sheet s address) := by
  unfold Document.addMember Dictionary.addMember
  refine bind_ofStep (Document.variable_eq h hs address d.nodeId) fun v => ?_
  refine bind_ofStep rfl fun o => ?_
  cases o with
  | plain w => rfl
  | group g => exact bind_ofStep rfl fun d => rfl

end Objects

/-! ### The passes -/

/-- The first pass: objects and what has a name of its own. -/
def Document.firstPass (doc : Document) (d : Dictionary) (headed : Section × Heading) :
    Guarded Dictionary :=
  match headed.2 with
  | .commissioning => Guarded.commission d headed.1
  | .dummyUsage => Guarded.addDummies d headed.1
  | .object index => doc.addObject d headed.1 index
  | _ => pure d

/-- The second pass: members. -/
def Document.secondPass (doc : Document) (d : Dictionary) (headed : Section × Heading) :
    Guarded Dictionary :=
  match headed.2 with
  | .member index subindex => doc.addMember d headed.1 ⟨index, subindex⟩
  | _ => pure d

/-- The third pass: lists of names. -/
def Guarded.thirdPass (d : Dictionary) (headed : Section × Heading) : Guarded Dictionary :=
  match headed.2 with
  | .nameList index => Guarded.addNames d headed.1 index
  | _ => pure d

/-- The dictionary that the sections describe for a node. -/
def Document.dictionary (doc : Document) (node : Option UInt8) : Guarded Dictionary := do
  let headed ← doc.sections.mapM Guarded.headed
  let d ← headed.foldlM doc.firstPass { Dictionary.empty with nodeId := node }
  let d ← headed.foldlM doc.secondPass d
  headed.foldlM Guarded.thirdPass d

/-- The dictionary that a text describes for a node, read by a machine whose counts have `room`
values. -/
def Guarded.ofText (room : Nat) (text : String) (node : Option UInt8) : Guarded Dictionary := do
  let doc ← Document.ofText room text
  let d ← doc.dictionary node
  .note (.sheetRead doc.sections.length d.size)
  pure d

section Passes

variable {x : Section × Heading}

theorem Document.firstPass_eq (h : doc.Indexed) (hx : x.1.Proper) (d : Dictionary) :
    doc.firstPass d x = ofStep (d.firstPass doc.sheet x) := by
  obtain ⟨s, heading⟩ := x
  cases heading with
  | commissioning => exact Guarded.commission_eq d s
  | dummyUsage => exact Guarded.addDummies_eq d s
  | object index => exact Document.addObject_eq h hx d index
  | member index subindex | nameList index | other => rfl

theorem Document.secondPass_eq (h : doc.Indexed) (hx : x.1.Proper) (d : Dictionary) :
    doc.secondPass d x = ofStep (d.secondPass doc.sheet x) := by
  obtain ⟨s, heading⟩ := x
  cases heading with
  | member index subindex => exact Document.addMember_eq h hx d ⟨index, subindex⟩
  | object index | nameList index | dummyUsage | commissioning | other => rfl

theorem Guarded.thirdPass_eq (d : Dictionary) : Guarded.thirdPass d x = ofStep (d.thirdPass x) := by
  obtain ⟨s, heading⟩ := x
  cases heading with
  | nameList index => exact Guarded.addNames_eq d s index
  | object index | member index subindex | dummyUsage | commissioning | other => rfl

end Passes

/-- **The passes over the sections run no hazard.** -/
theorem Document.dictionary_eq (h : doc.Indexed) (hproper : doc.sheet.Proper)
    (node : Option UInt8) : doc.dictionary node = ofStep (doc.sheet.dictionary node) := by
  have hheaded : id <$> doc.sections.mapM Guarded.headed =
      ofStep (.ofExcept (doc.sheet.sections.mapM Section.headed)) := by
    rw [id_map]
    exact Guarded.mapM_ofStep fun s _ => Guarded.headed_eq s
  unfold Document.dictionary Sheet.dictionary
  refine Guarded.bind_ofStep_of_map hheaded fun headed _ hok => ?_
  -- the passes run over the sections of the sheet
  have hfst : headed.map Prod.fst = doc.sections := (Section.headings_eq hok).1
  have hsections : ∀ x ∈ headed, x.1.Proper := fun x hx => by
    have hmem := List.mem_map_of_mem (f := Prod.fst) hx
    rw [hfst] at hmem
    exact hproper.sections x.1 hmem
  refine bind_ofStep (Guarded.foldlM_ofStep (fun d x hx => ?_) _) fun d => ?_
  · exact Document.firstPass_eq h (hsections x hx) d
  refine bind_ofStep (Guarded.foldlM_ofStep (fun d x hx => ?_) _) fun d => ?_
  · exact Document.secondPass_eq h (hsections x hx) d
  exact Guarded.foldlM_ofStep (fun d x _ => Guarded.thirdPass_eq d) d

/-- **A text is read without hazard**, whatever its characters and whatever the node: no cut falls
inside of a character or behind the end of a text, no position behind the end of a list, and no
count, sum or product out of its word.  All that is asked for is that counts have values enough for
the bytes of the text.  The guarded steps give the same dictionary or fault, with the same notices,
as the steps without guards. -/
theorem reading_runs_no_hazard (room : Nat) (text : String) (node : Option UInt8)
    (hroom : text.utf8ByteSize + 1 < room) :
    Guarded.ofText room text node = ofStep (Dictionary.ofText text node) ∧
      ∀ hazard, (Guarded.ofText room text node).outcome ≠ .error (.hazard hazard) := by
  obtain ⟨hsheet, hindexed⟩ := Document.sheet_ofText hroom
  have heq : Guarded.ofText room text node = ofStep (Dictionary.ofText text node) := by
    unfold Guarded.ofText Dictionary.ofText
    refine Guarded.bind_ofStep_of_map hsheet fun doc hdoc hok => ?_
    refine bind_ofStep (Document.dictionary_eq (hindexed doc hdoc) (Sheet.proper_ofText hok) node)
      fun d => ?_
    exact bind_ofStep rfl fun _ => rfl
  refine ⟨heq, fun hazard => ?_⟩
  rw [heq]
  exact Guarded.outcome_ofStep_ne _ hazard

/-- A name whose fourth byte is inside of a character, a key in the other letter case, a number with
a sign and the greatest magnitude as a bitrate. -/
theorem reading_runs_no_hazard_wide :
    let text := "[123ÄÖÜ]\nA=1\n[2000]\nDataType=7\nDefaultValue=$NODEID+0x180\n" ++
      "BITDEFINITION.Größe=1\n[DeviceComissioning]\nBaudrate=-0xFFFFFFFFFFFFFFFF\n"
    text.utf8ByteSize + 1 < 2 ^ 64 ∧
      Guarded.ofText (2 ^ 64) text (some 5) = ofStep (Dictionary.ofText text (some 5)) ∧
      ∀ hazard, (Guarded.ofText (2 ^ 64) text (some 5)).outcome ≠ .error (.hazard hazard) :=
  ⟨by decide +kernel, reading_runs_no_hazard (2 ^ 64) _ (some 5) (by decide +kernel)⟩

end DataSheet
