/-
**Sections by position.**

While a data sheet is read, its sections are kept in a list, and the position of each under its
name.  Lines are cut at the places of their delimiters and counted.  This module reads data sheets
in this way, with a guard at every cut, count and position, and shows that no guard strikes: a
delimiter is a character of one byte, and the positions under the names follow the list.

Main definitions:

* `Document` — the sections read so far, with their positions;
* `Document.section?` — the section with a name, looked up by its position;
* `Document.line`, `Document.add`, `Document.addLine` — what a line is, and what it adds;
* `Document.ofText` — the sections of a text;
* `Document.Indexed` — every name has the position of its section;
* `Document.Follows`, `Document.Mirrors` — sections and steps in step with those of a draft.

Main results:

* `Document.section?_eq` — positions lead to the sections with the names;
* `Document.line_eq` — **lines are cut without hazard**;
* `Document.mirrors_add` — a line keeps the positions in step with the sections;
* `Document.sheet_ofText` — **a text is split into sections without hazard**.
-/

import DataSheet.Proofs.Grammar
import DataSheet.Proofs.Guarded

set_option relaxedAutoImplicit false
set_option autoImplicit false

namespace DataSheet

open Guarded (ofStep)

/-- The sections in the order of their headers, and their positions under their names. -/
structure Document where
  sections : List Section
  positions : List (String × Nat)

namespace Document

variable {doc : Document}

/-- The data sheet of the sections. -/
def sheet (doc : Document) : Sheet := ⟨doc.sections⟩

/-! ### Positions -/

/-- The names of the sections. -/
def names (doc : Document) : List String := doc.sections.map Section.name

/-- Each name has the position at which it stands, and no other name has one. -/
def Indexed (doc : Document) : Prop :=
  ∀ name i, doc.positions.lookup name = some i ↔ doc.names[i]? = some name

/-- The section with a name, looked up by its position. -/
def section? (doc : Document) (name : String) : Guarded (Option Section) :=
  match doc.positions.lookup name with
  | none => pure none
  | some i => do
    let s ← Guarded.item i doc.sections
    pure (some s)

theorem Indexed.lookup_eq_none_iff (h : doc.Indexed) {name : String} :
    doc.positions.lookup name = none ↔ name ∉ doc.names := by
  rw [Option.eq_none_iff_forall_ne_some, List.mem_iff_getElem?, not_exists]
  exact forall_congr' fun i => not_congr (h name i)

/-- A new section at the end has its place under its name. -/
theorem Indexed.concat (h : doc.Indexed) {name : String}
    (hnew : doc.positions.lookup name = none) (n : Nat) :
    Indexed ⟨doc.sections ++ [⟨name, n, []⟩], (name, doc.sections.length) :: doc.positions⟩ := by
  intro name' i
  have hnot := h.lookup_eq_none_iff.1 hnew
  have hlength : doc.names.length = doc.sections.length := List.length_map _
  have hconcat : (doc.names ++ [name])[i]? = some name' ↔
      doc.names[i]? = some name' ∨ i = doc.sections.length ∧ name = name' := by
    grind
  rw [names, List.map_append, List.map_singleton]
  change _ ↔ (doc.names ++ [name])[i]? = some name'
  rw [hconcat, List.lookup_cons]
  by_cases hname : name' = name
  · subst hname
    have hstands : doc.names[i]? ≠ some name' := fun hi => hnot (List.mem_of_getElem? hi)
    simp [hstands, eq_comm]
  · rw [beq_false_of_ne hname]
    simp [Ne.symm hname, h name' i]

/-- **Positions lead to the sections with the names.** -/
theorem section?_eq (h : doc.Indexed) (name : String) :
    doc.section? name = pure (doc.sheet.find? name) := by
  unfold section? Sheet.find? sheet
  cases hi : doc.positions.lookup name with
  | none =>
      have hnone := h.lookup_eq_none_iff.1 hi
      rw [List.find?_eq_none.2 fun s hs => ?_]
      simpa using fun hname : s.name = name => hnone (hname ▸ List.mem_map_of_mem hs)
  | some i =>
      have hstands := (h name i).1 hi
      rw [names, List.getElem?_map] at hstands
      obtain ⟨s, hs, hname⟩ := Option.map_eq_some_iff.1 hstands
      obtain ⟨hlt, hget⟩ := List.getElem?_eq_some_iff.1 hs
      -- the name has one position only, so no section before has it
      have hfirst : ∀ j (hj : j < i), doc.sections[j].name ≠ name := by
        intro j hj hname'
        have hj' : doc.positions.lookup name = some j := by
          rw [h, names, List.getElem?_map, List.getElem?_eq_getElem (hj.trans hlt),
            Option.map_some, hname']
        rw [hi] at hj'
        exact hj.ne' (Option.some_inj.1 hj')
      have hfind : doc.sections.find? (fun t => t.name = name) = some s :=
        List.find?_eq_some_iff_getElem.2
          ⟨by simpa using hname, i, hlt, hget, fun j hj => by simpa using hfirst j hj⟩
      rw [hfind]
      dsimp only
      rw [Guarded.item_of_getElem? hs, pure_bind]

/-! ### Single lines -/

/-- What follows an opening bracket. -/
def header (s : List Char) : Guarded Sheet.Line :=
  match Text.lastOffset? (· == ']') s with
  | none => pure (.bad .unterminatedHeader)
  | some i => do
    let part ← Guarded.front i s
    let name := Text.trim part
    pure (if name = [] then .bad .emptyName else .header (String.ofList name))

/-- A key and a value.  The value starts behind the delimiter, which takes one byte. -/
def entry (room : Nat) (s : List Char) : Guarded Sheet.Line :=
  match Text.offset? Sheet.isDelimiter s with
  | none => pure (.bad .noDelimiter)
  | some i => do
    let front ← Guarded.front i s
    let key := Text.trim front
    let next ← Guarded.counted room (i + 1)
    let back ← Guarded.back next s
    let value := Text.trim back
    pure (if key = [] then .bad .emptyKey
      else .entry (String.ofList key) (String.ofList value))

/-- What a line is. -/
def line (room : Nat) (raw : List Char) : Guarded Sheet.Line :=
  match Text.trim raw with
  | [] => pure .skipped
  | c :: s =>
    if c = ';' ∨ c = '#' then pure .skipped
    else if c = '[' then header s
    else entry room (c :: s)

theorem not_mem_of_beforeLast? {c : Char} {s : List Char} (h : Sheet.beforeLast? c s = none) :
    c ∉ s := by
  unfold Sheet.beforeLast? at h
  split at h
  next hrest =>
    intro hmem
    simpa using List.dropWhile_eq_nil_iff.1 hrest c (List.mem_reverse.2 hmem)
  next => cases h

theorem forall_mem_of_atDelimiter? {s : List Char} (h : Sheet.atDelimiter? s = none) :
    ∀ c ∈ s, Sheet.isDelimiter c = false := by
  unfold Sheet.atDelimiter? at h
  rw [List.span_eq_takeWhile_dropWhile] at h
  split at h
  next key hsplit =>
    have hnil := (Prod.mk.inj hsplit).2
    simpa using List.dropWhile_eq_nil_iff.1 hnil
  next => cases h

theorem header_eq (s : List Char) : header s = pure (Sheet.Line.ofHeader s) := by
  unfold header Sheet.Line.ofHeader
  cases hname : Sheet.beforeLast? ']' s with
  | none =>
      rw [Text.lastOffset?_eq_none_iff.2 fun c hc => ?_]
      · have hnot := not_mem_of_beforeLast? hname
        simpa using fun h : c = ']' => hnot (h ▸ hc)
  | some name =>
      obtain ⟨rest, hrest, rfl⟩ := Sheet.eq_append_of_beforeLast? hname
      have hbehind : ∀ d ∈ rest, (d == ']') = false := fun d hd =>
        beq_eq_false_iff_ne.2 fun h => hrest (h ▸ hd)
      rw [Text.lastOffset?_append name (by decide) hbehind]
      dsimp only
      rw [Guarded.front_append, pure_bind]

theorem utf8Size_of_isDelimiter {c : Char} (h : Sheet.isDelimiter c) : c.utf8Size = 1 := by
  simp only [Sheet.isDelimiter, Bool.or_eq_true, beq_iff_eq] at h
  rcases h with rfl | rfl <;> decide

theorem entry_eq {room : Nat} {s : List Char} (hroom : Text.size s < room) :
    entry room s = pure (Sheet.Line.ofEntry s) := by
  unfold entry Sheet.Line.ofEntry
  cases hparts : Sheet.atDelimiter? s with
  | none => rw [Text.offset?_eq_none_iff.2 (forall_mem_of_atDelimiter? hparts)]
  | some parts =>
      obtain ⟨key, value⟩ := parts
      obtain ⟨c, hc, rfl, hkey⟩ := Sheet.eq_append_of_atDelimiter? hparts
      have hnext : Text.size key + 1 = Text.size (key ++ [c]) := by
        rw [Text.size_append, Text.size_cons, utf8Size_of_isDelimiter hc, Text.size_nil]
      have hsplit : key ++ c :: value = (key ++ [c]) ++ value := by simp
      have hlt : Text.size key + 1 < room := by
        rw [hsplit, Text.size_append, ← hnext] at hroom
        omega
      rw [Text.offset?_append hkey hc]
      dsimp only
      rw [Guarded.front_append, pure_bind, Guarded.counted_eq hlt, pure_bind, hnext, hsplit,
        Guarded.back_append, pure_bind]

/-- **Lines are cut without hazard.** -/
theorem line_eq {room : Nat} {raw : List Char} (hroom : Text.size raw < room) :
    line room raw = pure (Sheet.Line.ofText raw) := by
  have htrim := (Text.size_trim_le raw).trans_lt hroom
  unfold line Sheet.Line.ofText
  generalize Text.trim raw = t at htrim
  cases t with
  | nil => rfl
  | cons c s =>
      dsimp only
      rw [header_eq, entry_eq htrim]
      split
      · rfl
      · split <;> rfl

/-! ### Lines in their place -/

/-- Adds line number `n` to the sections read so far. -/
def add (doc : Document) (n : Nat) : Sheet.Line → Guarded Document
  | .skipped => pure doc
  | .bad how => .fail (.fault (.malformed n how))
  | .header name =>
    if (doc.positions.lookup name).isSome then .fail (.fault (.malformed n .duplicateSection))
    else do
      .note (.sectionFound name n)
      pure
        { sections := doc.sections ++ [⟨name, n, []⟩]
          positions := (name, doc.sections.length) :: doc.positions }
  | .entry key value =>
    match doc.sections.getLast? with
    | none => .fail (.fault (.malformed n .strayEntry))
    | some s =>
      if s.has key then .fail (.fault (.malformed n .duplicateKey))
      else pure
        { doc with
          sections := doc.sections.dropLast ++ [s.insert (Entry.ofLine key value n)] }

/-- The sections are those of a draft, and their positions are in step. -/
structure Follows (doc : Document) (d : Sheet.Draft) : Prop where
  sections : doc.sections = d.sections.reverse
  indexed : doc.Indexed

/-- What is noticed on the way to the sections. -/
def found (doc : Document) : List Notice := doc.sections.map fun s => .sectionFound s.name s.line

/-- A step does to a document what another does to a draft: it fails alike, or it leads to what
follows the new draft, and the sections that it finds are noticed. -/
def Mirrors (doc : Document) (n : Nat) (r : Guarded Document) :
    Except Malformation Sheet.Draft → Prop
  | .error how => r = .fail (.fault (.malformed n how))
  | .ok d => ∃ doc' ns, r = ⟨ns, .ok doc'⟩ ∧ doc'.Follows d ∧ doc'.found = doc.found ++ ns

variable {d : Sheet.Draft}

theorem Follows.any_eq (h : doc.Follows d) (name : String) :
    (d.sections.any fun s => s.name = name) = (doc.positions.lookup name).isSome := by
  rw [Bool.eq_iff_iff, Option.isSome_iff_ne_none, Ne, h.indexed.lookup_eq_none_iff, not_not, names,
    h.sections]
  simp

/-- A new header makes a new section at the end. -/
theorem Follows.concat (h : doc.Follows d) {name : String}
    (hnew : ¬ (doc.positions.lookup name).isSome) (n : Nat) :
    Follows ⟨doc.sections ++ [⟨name, n, []⟩], (name, doc.sections.length) :: doc.positions⟩
      ⟨⟨name, n, []⟩ :: d.sections⟩ where
  sections := by simp [h.sections]
  indexed := h.indexed.concat (Option.not_isSome_iff_eq_none.1 hnew) n

/-- A new entry goes to the last section, and leaves the names as they are. -/
theorem Follows.insert {s : Section} {earlier : List Section} (h : doc.Follows ⟨s :: earlier⟩)
    (e : Entry) :
    Follows ⟨earlier.reverse ++ [s.insert e], doc.positions⟩ ⟨s.insert e :: earlier⟩ where
  sections := by simp
  indexed := by
    intro name i
    rw [h.indexed name i, names, names, h.sections]
    simp [Section.insert]

/-- **A line keeps the positions in step with the sections.** -/
theorem mirrors_add (h : doc.Follows d) (n : Nat) (l : Sheet.Line) :
    doc.Mirrors n (doc.add n l) (d.add n l) := by
  cases l with
  | skipped => exact ⟨doc, [], rfl, h, (List.append_nil _).symm⟩
  | bad how => rfl
  | header name =>
      unfold add Sheet.Draft.add
      dsimp only
      rw [h.any_eq]
      by_cases hknown : (doc.positions.lookup name).isSome
      · rw [if_pos hknown, if_pos hknown]
        rfl
      · rw [if_neg hknown, if_neg hknown]
        exact ⟨_, [.sectionFound name n], rfl, h.concat hknown n, by simp [found]⟩
  | entry key value =>
      obtain ⟨sections⟩ := d
      unfold add Sheet.Draft.add
      dsimp only
      rw [h.sections]
      cases sections with
      | nil => rfl
      | cons s earlier =>
          rw [List.reverse_cons, List.getLast?_concat, List.dropLast_concat]
          dsimp only
          by_cases hkey : s.has key
          · rw [if_pos hkey, if_pos hkey]
            rfl
          · rw [if_neg hkey, if_neg hkey]
            refine ⟨_, [], rfl, h.insert _, ?_⟩
            simp [found, h.sections, Section.insert]

/-! ### Lines and their sizes -/

/-- A text has at most one line more than it has bytes. -/
theorem length_splitOn_le (s : List Char) : (s.splitOn '\n').length ≤ Text.size s + 1 := by
  rw [List.splitOn_eq_splitOnP]
  induction s with
  | nil => exact le_rfl
  | cons c s ih =>
      have hc := c.utf8Size_pos
      rw [List.splitOnP_cons_eq_if_modifyHead, Text.size_cons]
      split
      · rw [List.length_cons]
        omega
      · rw [List.length_modifyHead]
        omega

/-- No line is longer than the text. -/
theorem size_le_of_mem_splitOn {s l : List Char} (h : l ∈ s.splitOn '\n') :
    Text.size l ≤ Text.size s := by
  rw [List.splitOn_eq_splitOnP] at h
  induction s generalizing l with
  | nil =>
      cases List.mem_singleton.1 h
      exact le_rfl
  | cons c s ih =>
      rw [List.splitOnP_cons_eq_if_modifyHead] at h
      rw [Text.size_cons]
      split at h
      · rcases List.mem_cons.1 h with rfl | h
        · exact Nat.zero_le _
        · exact (ih h).trans (Nat.le_add_left _ _)
      · obtain ⟨first, rest, hsplit⟩ := List.exists_cons_of_ne_nil
          (List.splitOnP_ne_nil (· == '\n') s)
        rw [hsplit] at ih
        rw [hsplit, List.modifyHead_cons] at h
        rcases List.mem_cons.1 h with rfl | h
        · rw [Text.size_cons]
          exact Nat.add_le_add_left (ih List.mem_cons_self) _
        · exact (ih (List.mem_cons_of_mem first h)).trans (Nat.le_add_left _ _)

theorem size_withoutMark_le (text : String) :
    Text.size (Sheet.withoutMark text.toList) ≤ text.utf8ByteSize := by
  rw [← Text.size_toList]
  cases text.toList with
  | nil => exact le_rfl
  | cons c s =>
      unfold Sheet.withoutMark
      dsimp only
      split
      · exact Text.size_le_of_suffix (List.suffix_cons c s)
      · exact le_rfl

/-! ### All lines -/

/-- Adds the line at position `i`. -/
def addLine (room : Nat) (doc : Document) (numbered : List Char × Nat) : Guarded Document := do
  let n ← Guarded.counted room (numbered.2 + 1)
  let l ← line room numbered.1
  doc.add n l

/-- The sections of a text, read by a machine whose counts have `room` values. -/
def ofText (room : Nat) (text : String) : Guarded Document := do
  let doc ← (Sheet.lines text).zipIdx.foldlM (addLine room) ⟨[], []⟩
  if doc.sections = [] then .fail (.fault (.malformed 0 .noSections))
  else pure doc

theorem addLine_eq {room : Nat} {raw : List Char} {i : Nat} (hsize : Text.size raw < room)
    (hcount : i + 1 < room) :
    addLine room doc (raw, i) = doc.add (i + 1) (Sheet.Line.ofText raw) := by
  unfold addLine
  rw [Guarded.counted_eq hcount, pure_bind, line_eq hsize, pure_bind]

/-- Adding lines one after the other does what scanning them does. -/
theorem foldlM_addLine {room : Nat} {ls : List (List Char)} (hsize : ∀ l ∈ ls, Text.size l < room)
    {i : Nat} (hcount : i + ls.length < room) (h : doc.Follows d) :
    ∃ doc' ns, doc'.Follows (Sheet.scan d (i + 1) ls).1 ∧ doc'.found = doc.found ++ ns ∧
      (ls.zipIdx i).foldlM (addLine room) doc =
        ⟨ns, match (Sheet.scan d (i + 1) ls).2 with
          | some f => .error (.fault f)
          | none => .ok doc'⟩ := by
  induction ls generalizing doc d i with
  | nil => exact ⟨doc, [], h, (List.append_nil _).symm, rfl⟩
  | cons raw ls ih =>
      rw [List.length_cons] at hcount
      rw [List.zipIdx_cons, List.foldlM_cons, addLine_eq (hsize raw List.mem_cons_self) (by omega)]
      have hmirrors := mirrors_add h (i + 1) (Sheet.Line.ofText raw)
      unfold Sheet.scan
      cases hadd : d.add (i + 1) (Sheet.Line.ofText raw) with
      | error how =>
          rw [hadd] at hmirrors
          rw [hmirrors]
          exact ⟨doc, [], h, (List.append_nil _).symm, rfl⟩
      | ok d' =>
          rw [hadd] at hmirrors
          obtain ⟨doc₁, ns₁, hdoc₁, h₁, hfound₁⟩ := hmirrors
          obtain ⟨doc', ns, h', hfound, hrest⟩ :=
            ih (fun l hl => hsize l (List.mem_cons_of_mem raw hl)) (i := i + 1) (by omega) h₁
          refine ⟨doc', ns₁ ++ ns, h', ?_, ?_⟩
          · rw [hfound, hfound₁, List.append_assoc]
          · rw [hdoc₁, Guarded.mk_ok_bind, hrest]

theorem follows_nil : Follows ⟨[], []⟩ ⟨[]⟩ := ⟨rfl, fun _ _ => by simp [names]⟩

/-- **A text is split into sections without hazard**, and the positions of the sections are in
step. -/
theorem sheet_ofText {room : Nat} {text : String} (hroom : text.utf8ByteSize + 1 < room) :
    sheet <$> ofText room text = ofStep (Sheet.ofText text) ∧
      ∀ doc, (ofText room text).outcome = .ok doc → doc.Indexed := by
  have hmark := size_withoutMark_le text
  have hsize : ∀ l ∈ Sheet.lines text, Text.size l < room := fun l hl =>
    (size_le_of_mem_splitOn hl).trans_lt (by omega)
  have hcount : 0 + (Sheet.lines text).length < room := by
    have := length_splitOn_le (Sheet.withoutMark text.toList)
    change (Sheet.lines text).length ≤ _ at this
    omega
  obtain ⟨doc, ns, h, hfound, hrun⟩ := foldlM_addLine hsize hcount follows_nil
  rw [Nat.zero_add] at h hrun
  unfold ofText Sheet.ofText
  rw [hrun]
  generalize Sheet.scan ⟨[]⟩ 1 (Sheet.lines text) = r at h
  obtain ⟨d, fault⟩ := r
  have hsections : d.sheet.sections = doc.sections := h.sections.symm
  have hempty : d.sections = [] ↔ doc.sections = [] := by
    rw [h.sections, List.reverse_eq_nil_iff]
  have hnotices : ns = doc.sections.map fun s => .sectionFound s.name s.line := hfound.symm
  dsimp only
  rw [hsections, ← hnotices]
  cases fault with
  | some f => exact ⟨rfl, nofun⟩
  | none =>
      rw [Guarded.mk_ok_bind]
      by_cases hnil : doc.sections = []
      · rw [if_pos hnil, if_pos (hempty.2 hnil)]
        refine ⟨?_, nofun⟩
        change (⟨ns ++ [], _⟩ : Guarded Sheet) = _
        rw [List.append_nil]
        rfl
      · rw [if_neg hnil, if_neg (mt hempty.1 hnil)]
        refine ⟨?_, fun doc' hdoc => ?_⟩
        · change (⟨ns ++ [] ++ [], .ok doc.sheet⟩ : Guarded Sheet) = _
          rw [List.append_nil, List.append_nil, sheet, ← hsections]
          rfl
        · cases hdoc
          exact h.indexed

end Document

end DataSheet
