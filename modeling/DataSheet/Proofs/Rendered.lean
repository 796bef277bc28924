/-
**A data sheet that is written is read back.**

A data sheet is written with a line for each header and for each entry.  What is read from a text
has names, keys and values without blanks around them and without line feeds, and keys without
delimiters in them.  Such a data sheet is read back as it was written, up to the places of its
lines.

Main definitions:

* `Neat` — a text on one line without blanks at its ends;
* `Entry.Writable`, `Section.Writable` — what has the shape of what is read.

Main results:

* `Sheet.writable_ofText` — what is read has this shape;
* `Sheet.ofText_render_unlined` — **a data sheet of this shape is read back from its text**.
-/

import DataSheet.Proofs.Layout
import DataSheet.Proofs.OneLine
import DataSheet.Proofs.Sheets

set_option relaxedAutoImplicit false
set_option autoImplicit false

namespace DataSheet

/-- An item with the greatest key is entered at the end. -/
theorem Ascending.insert_of_forall_lt {κ α : Type} [DecidableEq κ] [LT κ] [DecidableLT κ] [LE κ]
    [Std.IsLinearOrder κ] [Std.LawfulOrderLT κ] {f : α → κ} {a : α} {l : List α}
    (h : ∀ b ∈ l, f b < f a) : insert f a l = l ++ [a] := by
  induction l with
  | nil => rfl
  | cons b l ih =>
      have hb := h b List.mem_cons_self
      rw [insert, if_neg (Std.not_gt_of_lt hb), if_neg (Std.ne_of_lt hb).symm,
        ih fun c hc => h c (List.mem_cons_of_mem b hc)]
      rfl

/-! ### Neat texts -/

/-- A text on one line without blanks at its ends. -/
structure Neat (s : String) : Prop where
  trimmed : Text.trim s.toList = s.toList
  oneLine : OneLine s.toList

theorem Text.trim_trim (s : List Char) : trim (trim s) = trim s :=
  (trim_trimEnd (s.dropWhile isBlank)).trans (trim_dropWhile s)

/-- Trimming leaves a part of the text. -/
theorem Text.trim_subset (s : List Char) : trim s ⊆ s := by
  intro c hc
  obtain ⟨b, -, hb⟩ := exists_trimEnd_append (s.dropWhile isBlank)
  have hrest : c ∈ s.dropWhile isBlank := by
    rw [hb]
    exact List.mem_append_left b hc
  exact (List.dropWhile_sublist _).subset hrest

/-- What is trimmed from a part of a line is neat. -/
theorem neat_trim {s : List Char} (h : OneLine s) : Neat (String.ofList (Text.trim s)) where
  trimmed := by
    rw [String.toList_ofList]
    exact Text.trim_trim s
  oneLine := by
    rw [String.toList_ofList]
    exact h.of_subset (Text.trim_subset s)

/-! ### The shape of what is read -/

/-- The key is on one line, may stand before a delimiter, and the value is on one line. -/
structure Entry.Writable (e : Entry) : Prop where
  given : e.spelling ≠ ""
  part : Sheet.KeyPart e.spelling.toList
  spelling : Neat e.spelling
  value : Neat e.value

/-- The name is on one line, and so are the entries. -/
structure Section.Writable (s : Section) : Prop where
  given : s.name ≠ ""
  name : Neat s.name
  entries : ∀ e ∈ s.entries, e.Writable

namespace Sheet

/-- The lines of a text have no line feeds. -/
theorem oneLine_of_mem_splitOn {s l : List Char} (h : l ∈ s.splitOn '\n') : OneLine l := by
  rw [List.splitOn_eq_splitOnP] at h
  induction s generalizing l with
  | nil =>
      cases List.mem_singleton.1 h
      exact List.not_mem_nil
  | cons c s ih =>
      rw [List.splitOnP_cons_eq_if_modifyHead] at h
      split at h
      · rcases List.mem_cons.1 h with rfl | h
        · exact List.not_mem_nil
        · exact ih h
      next hc =>
        obtain ⟨first, rest, hsplit⟩ := List.exists_cons_of_ne_nil
          (List.splitOnP_ne_nil (· == '\n') s)
        rw [hsplit, List.modifyHead_cons] at h
        rcases List.mem_cons.1 h with rfl | h
        · have hfirst := ih (hsplit ▸ List.mem_cons_self)
          intro hmem
          rcases List.mem_cons.1 hmem with rfl | hmem
          · exact hc rfl
          · exact hfirst hmem
        · exact ih (hsplit ▸ List.mem_cons_of_mem first h)

theorem oneLine_of_mem_lines {text : String} {l : List Char} (h : l ∈ lines text) : OneLine l :=
  oneLine_of_mem_splitOn h

/-- The part before the last occurrence of a character is a part. -/
theorem subset_of_beforeLast? {c : Char} {s name : List Char} (h : beforeLast? c s = some name) :
    name ⊆ s := by
  unfold beforeLast? at h
  split at h
  · cases h
  next d r hr =>
    cases h
    intro x hx
    have hmem : x ∈ s.reverse.dropWhile (· ≠ c) := by
      rw [hr]
      exact List.mem_cons_of_mem d (List.mem_reverse.1 hx)
    exact List.mem_reverse.1 ((List.dropWhile_sublist _).subset hmem)

/-- The parts before and after the first delimiter. -/
theorem of_atDelimiter? {s key value : List Char} (h : atDelimiter? s = some (key, value)) :
    key = s.takeWhile (fun c => !isDelimiter c) ∧ value ⊆ s := by
  unfold atDelimiter? at h
  rw [List.span_eq_takeWhile_dropWhile] at h
  split at h
  · cases h
  next key' d value' hsplit =>
    cases h
    obtain ⟨rfl, hvalue⟩ := Prod.mk.inj hsplit
    refine ⟨rfl, fun c hc => ?_⟩
    have hmem : c ∈ s.dropWhile fun c => !isDelimiter c := by
      rw [hvalue]
      exact List.mem_cons_of_mem d hc
    exact (List.dropWhile_sublist _).subset hmem

namespace Line

/-- A line starts with a character that is not blank, once it is trimmed. -/
theorem not_isBlank_of_trim {l s : List Char} {c : Char} (h : Text.trim l = c :: s) :
    Text.isBlank c = false := by
  obtain ⟨b, -, hb⟩ := Text.exists_trimEnd_append (l.dropWhile Text.isBlank)
  change _ = Text.trim l ++ b at hb
  have hhead := List.head?_dropWhile_not Text.isBlank l
  rw [hb, h] at hhead
  exact hhead

theorem ofList_ne_empty {s : List Char} (h : s ≠ []) : String.ofList s ≠ "" := by
  intro hempty
  exact h (by simpa using congrArg String.toList hempty)

/-- The part of a line before the first delimiter may stand there again when it is trimmed. -/
theorem keyPart_trim {c : Char} {s : List Char} (hblank : Text.isBlank c = false)
    (hc : c ≠ ';' ∧ c ≠ '#' ∧ c ≠ '[') :
    KeyPart (Text.trim ((c :: s).takeWhile fun c => !isDelimiter c)) where
  undelimited := by
    intro d hd
    have hd := List.mem_takeWhile_imp (Text.trim_subset _ hd)
    simpa using hd
  opening := by
    intro d hd
    rw [List.takeWhile_cons] at hd
    split at hd
    · have htrim := Text.trim_append_cons [] (s.takeWhile fun c => !isDelimiter c) hblank
      rw [List.dropWhile_nil, List.nil_append, List.nil_append] at htrim
      rw [htrim, List.dropWhile_cons_of_neg (by simp [hblank])] at hd
      cases hd
      exact hc
    · cases hd

/-- What a header is made of. -/
theorem header_cases {l : List Char} {name : String} (h : ofText l = .header name) :
    ∃ s part, Text.trim l = '[' :: s ∧ beforeLast? ']' s = some part ∧ Text.trim part ≠ [] ∧
      name = String.ofList (Text.trim part) := by
  unfold ofText at h
  split at h
  · cases h
  next c s hs =>
    split at h
    · cases h
    split at h
    next hbracket =>
      unfold ofHeader at h
      split at h
      · cases h
      next part hpart =>
        dsimp only at h
        split at h
        · cases h
        next hgiven =>
          cases h
          exact ⟨s, part, hbracket ▸ hs, hpart, hgiven, rfl⟩
    · unfold ofEntry at h
      split at h
      · cases h
      · dsimp only at h
        split at h <;> cases h

/-- What an entry is made of. -/
theorem entry_cases {l : List Char} {key value : String} (h : ofText l = .entry key value) :
    ∃ c s key' value', Text.trim l = c :: s ∧ (c ≠ ';' ∧ c ≠ '#' ∧ c ≠ '[') ∧
      atDelimiter? (c :: s) = some (key', value') ∧ Text.trim key' ≠ [] ∧
      key = String.ofList (Text.trim key') ∧ value = String.ofList (Text.trim value') := by
  unfold ofText at h
  split at h
  · cases h
  next c s hs =>
    split at h
    · cases h
    next hcomment =>
    split at h
    · unfold ofHeader at h
      split at h
      · cases h
      · dsimp only at h
        split at h <;> cases h
    next hbracket =>
      unfold ofEntry at h
      split at h
      · cases h
      next key' value' hparts =>
        dsimp only at h
        split at h
        · cases h
        next hgiven =>
          cases h
          rw [not_or] at hcomment
          exact ⟨c, s, key', value', hs, ⟨hcomment.1, hcomment.2, hbracket⟩, hparts, hgiven, rfl,
            rfl⟩

/-- The name in a header is neat. -/
theorem neat_of_header {l : List Char} (hl : OneLine l) {name : String}
    (h : ofText l = .header name) : name ≠ "" ∧ Neat name := by
  obtain ⟨s, part, hs, hpart, hgiven, rfl⟩ := header_cases h
  refine ⟨ofList_ne_empty hgiven, neat_trim (hl.of_subset fun c hc => ?_)⟩
  have hmem : c ∈ Text.trim l := by
    rw [hs]
    exact List.mem_cons_of_mem '[' (subset_of_beforeLast? hpart hc)
  exact Text.trim_subset l hmem

/-- The entry in a line can be written. -/
theorem writable_of_entry {l : List Char} (hl : OneLine l) {key value : String}
    (h : ofText l = .entry key value) (n : Nat) : (Entry.ofLine key value n).Writable := by
  obtain ⟨c, s, key', value', hs, hc, hparts, hgiven, rfl, rfl⟩ := entry_cases h
  obtain ⟨rfl, hvalue⟩ := of_atDelimiter? hparts
  have htrim : c :: s ⊆ l := hs ▸ Text.trim_subset l
  have hkey : (c :: s).takeWhile (fun c => !isDelimiter c) ⊆ c :: s :=
    (List.takeWhile_sublist _).subset
  refine ⟨ofList_ne_empty hgiven, ?_, neat_trim (hl.of_subset (List.Subset.trans hkey htrim)),
    neat_trim (hl.of_subset (List.Subset.trans hvalue htrim))⟩
  unfold Entry.ofLine
  rw [String.toList_ofList]
  exact keyPart_trim (not_isBlank_of_trim hs) hc

end Line

/-- Sections that are read can be written. -/
theorem Draft.writable_add {d d' : Draft} {n : Nat} {l : List Char} (hl : OneLine l)
    (hd : ∀ s ∈ d.sections, s.Writable) (h : d.add n (Line.ofText l) = .ok d') :
    ∀ s ∈ d'.sections, s.Writable := by
  cases hline : Line.ofText l with
  | skipped =>
      rw [hline] at h
      cases h
      exact hd
  | bad how =>
      rw [hline] at h
      cases h
  | header name =>
      rw [hline] at h
      unfold add at h
      dsimp only at h
      split at h
      · cases h
      · cases h
        obtain ⟨hgiven, hname⟩ := Line.neat_of_header hl hline
        intro s hs
        rcases List.mem_cons.1 hs with rfl | hs
        · refine ⟨hgiven, hname, fun e he => ?_⟩
          cases he
        · exact hd s hs
  | entry key value =>
      rw [hline] at h
      obtain ⟨sections⟩ := d
      cases sections with
      | nil => cases h
      | cons t earlier =>
          unfold add at h
          dsimp only at h
          split at h
          · cases h
          · cases h
            have ht := hd t List.mem_cons_self
            intro s hs
            rcases List.mem_cons.1 hs with rfl | hs
            · refine ⟨ht.given, ht.name, fun e he => ?_⟩
              rcases Ascending.eq_or_mem_of_mem_insert _ _ _ _ he with rfl | he
              · exact Line.writable_of_entry hl hline n
              · exact ht.entries e he
            · exact hd s (List.mem_cons_of_mem t hs)

theorem writable_scan {d : Draft} (hd : ∀ s ∈ d.sections, s.Writable) (n : Nat)
    {ls : List (List Char)} (hls : ∀ l ∈ ls, OneLine l) :
    ∀ s ∈ (scan d n ls).1.sections, s.Writable := by
  induction ls generalizing d n with
  | nil => exact hd
  | cons l ls ih =>
      unfold scan
      cases hadd : d.add n (Line.ofText l) with
      | error how => exact hd
      | ok d' =>
          exact ih (Draft.writable_add (hls l List.mem_cons_self) hd hadd) (n + 1)
            fun l' hl' => hls l' (List.mem_cons_of_mem l hl')

/-- What is read has the shape of what is written. -/
theorem writable_ofText {text : String} {S : Sheet} (h : (ofText text).outcome = .ok S) :
    ∀ s ∈ S.sections, s.Writable := by
  have hempty : ∀ s ∈ (Draft.mk []).sections, s.Writable := fun s hs => by cases hs
  have hscan := writable_scan hempty 1 fun l (hl : l ∈ lines text) => oneLine_of_mem_lines hl
  unfold ofText at h
  dsimp only at h
  split at h
  · cases h
  · split at h
    · cases h
    · cases h
      intro s hs
      exact hscan s (List.mem_reverse.1 hs)

/-! ### Reading back -/

/-- The lines of a section. -/
def linesOf (s : Section) : List String :=
  ("[" ++ s.name ++ "]") :: s.entries.map fun e => e.spelling ++ "=" ++ e.value

theorem render_eq (S : Sheet) : S.render = textOfLines (S.sections.flatMap linesOf) := by
  unfold render textOfLines
  rw [List.flatMap_assoc]
  refine congrArg String.ofList (congrArg (List.flatMap · S.sections) (funext fun s => ?_))
  unfold renderSection linesOf
  rw [List.flatMap_cons, List.flatMap_map]
  rfl

theorem oneLine_of_mem_linesOf {s : Section} (hs : s.Writable) :
    ∀ l ∈ linesOf s, OneLine l.toList := by
  intro l hl
  rcases List.mem_cons.1 hl with rfl | hl
  · rw [String.toList_append, String.toList_append]
    have hopen : OneLine "[".toList := by decide
    have hclose : OneLine "]".toList := by decide
    exact (hopen.append hs.name.oneLine).append hclose
  · obtain ⟨e, he, rfl⟩ := List.mem_map.1 hl
    rw [String.toList_append, String.toList_append]
    have hdelimiter : OneLine "=".toList := by decide
    exact ((hs.entries e he).spelling.oneLine.append hdelimiter).append
      (hs.entries e he).value.oneLine

/-- The text of a data sheet has the lines that are written. -/
theorem lines_render {S : Sheet} (hS : S.sections ≠ []) (hw : ∀ s ∈ S.sections, s.Writable) :
    lines S.render = (S.sections.flatMap linesOf).map String.toList ++ [[]] := by
  have hhead : S.render.toList.head? ≠ some byteOrderMark := by
    obtain ⟨s, sections, hsections⟩ := List.exists_cons_of_ne_nil hS
    unfold render renderSection renderLine
    rw [hsections, String.toList_ofList, List.flatMap_cons, String.toList_append,
      String.toList_append]
    change some '[' ≠ some byteOrderMark
    decide
  rw [lines_of_unmarked hhead, render_eq]
  refine Transcript.linesOf_textOfLines fun l hl => ?_
  obtain ⟨s, hs, hl⟩ := List.mem_flatMap.1 hl
  exact oneLine_of_mem_linesOf (hw s hs) l hl

namespace Line

theorem ofText_headerLine {s : Section} (hs : s.Writable) :
    ofText ("[" ++ s.name ++ "]").toList = .header s.name := by
  have hmargin : Text.Blank [] := fun c hc => by cases hc
  have hline := ofText_header hmargin s.name.toList (List.not_mem_nil (a := ']'))
  rw [hs.name.trimmed, if_neg (by simpa using hs.given), String.ofList_toList] at hline
  rw [String.toList_append, String.toList_append]
  exact hline

theorem ofText_entryLine {e : Entry} (he : e.Writable) :
    ofText (e.spelling ++ "=" ++ e.value).toList = .entry e.spelling e.value := by
  have hline := ofText_entry he.part (c := '=') rfl e.value.toList
  rw [he.spelling.trimmed, he.value.trimmed, if_neg (by simpa using he.given),
    String.ofList_toList, String.ofList_toList] at hline
  rw [String.toList_append, String.toList_append, List.append_assoc]
  exact hline

end Line

/-- Entries in ascending order are read one after the other. -/
theorem scan?_entries (name : String) (line : Nat) {done rest : List Entry}
    (hw : ∀ e ∈ rest, e.Writable) (hkeys : ∀ e ∈ rest, e.key = foldKey e.spelling)
    (hascends : rest.Pairwise fun e e' => e.key < e'.key)
    (hlt : ∀ b ∈ done, ∀ e ∈ rest, b.key < e.key) (earlier : List Section) (n : Nat)
    (ls : List (List Char)) :
    ∃ more : List Entry, more.map Entry.unlined = rest.map Entry.unlined ∧
      scan? ⟨⟨name, line, done⟩ :: earlier⟩ n
          ((rest.map fun e => e.spelling ++ "=" ++ e.value).map String.toList ++ ls) =
        scan? ⟨⟨name, line, done ++ more⟩ :: earlier⟩ (n + rest.length) ls := by
  induction rest generalizing done n with
  | nil =>
      refine ⟨[], rfl, ?_⟩
      rw [List.append_nil]
      rfl
  | cons e rest ih =>
      obtain ⟨hfirst, hrest⟩ := List.pairwise_cons.1 hascends
      have hkey := hkeys e List.mem_cons_self
      have hread : (Entry.ofLine e.spelling e.value n).key = e.key := hkey.symm
      have hnew : ∀ b ∈ done, b.key < e.key := fun b hb => hlt b hb e List.mem_cons_self
      have hfound : Ascending.find? Entry.key (foldKey e.spelling) done = none := by
        rw [← hkey]
        exact List.find?_eq_none.2 fun b hb => by simpa using Std.ne_of_lt (hnew b hb)
      have hadd : (Draft.mk (⟨name, line, done⟩ :: earlier)).add n
          (Line.ofText (e.spelling ++ "=" ++ e.value).toList) =
          .ok ⟨⟨name, line, done ++ [Entry.ofLine e.spelling e.value n]⟩ :: earlier⟩ := by
        rw [Line.ofText_entryLine (hw e List.mem_cons_self)]
        unfold Draft.add Section.has Section.entry? Section.insert
        dsimp only
        rw [hfound, Ascending.insert_of_forall_lt fun b hb => ?_]
        · rfl
        · exact hread ▸ hnew b hb
      have hlt' : ∀ b ∈ done ++ [Entry.ofLine e.spelling e.value n], ∀ e' ∈ rest,
          b.key < e'.key := by
        intro b hb e' he'
        rcases List.mem_append.1 hb with hb | hb
        · exact hlt b hb e' (List.mem_cons_of_mem e he')
        · rw [List.mem_singleton.1 hb]
          exact hread ▸ hfirst e' he'
      obtain ⟨more, hmore, hscan⟩ := ih (fun e' he' => hw e' (List.mem_cons_of_mem e he'))
        (fun e' he' => hkeys e' (List.mem_cons_of_mem e he')) hrest hlt' (n + 1)
      have hsame : (Entry.ofLine e.spelling e.value n).unlined = e.unlined := by
        simp [Entry.unlined, Entry.ofLine, hkey]
      refine ⟨Entry.ofLine e.spelling e.value n :: more, by simp [hsame, hmore], ?_⟩
      rw [List.map_cons, List.map_cons, List.cons_append, scan?_cons, hadd]
      change scan? _ (n + 1) _ = _
      rw [hscan, List.append_assoc, List.length_cons, Nat.add_right_comm, Nat.add_assoc]
      rfl

/-- A section is read back. -/
theorem scan?_section {s : Section} (hs : s.Proper) (hw : s.Writable) {d : Draft}
    (hnew : ∀ t ∈ d.sections, t.name ≠ s.name) (n : Nat) (ls : List (List Char)) :
    ∃ t, t.unlined = s.unlined ∧ scan? d n ((linesOf s).map String.toList ++ ls) =
      scan? ⟨t :: d.sections⟩ (n + 1 + s.entries.length) ls := by
  have hadd : d.add n (Line.ofText ("[" ++ s.name ++ "]").toList) =
      .ok ⟨⟨s.name, n, []⟩ :: d.sections⟩ := by
    rw [Line.ofText_headerLine hw]
    unfold Draft.add
    dsimp only
    rw [List.any_eq_false.2 fun t ht => by simpa using hnew t ht]
    rfl
  have hnone : ∀ b ∈ ([] : List Entry), ∀ e ∈ s.entries, b.key < e.key := fun b hb => by cases hb
  obtain ⟨more, hmore, hscan⟩ := scan?_entries s.name n hw.entries hs.folded hs.ascends hnone
    d.sections (n + 1) ls
  refine ⟨⟨s.name, n, more⟩, by simp [Section.unlined, hmore], ?_⟩
  unfold linesOf
  rw [List.map_cons, List.cons_append, scan?_cons, hadd]
  exact hscan

/-- Sections with distinct names are read back. -/
theorem scan?_sections {sections : List Section}
    (hs : ∀ s ∈ sections, s.Proper) (hw : ∀ s ∈ sections, s.Writable)
    (hdistinct : (sections.map Section.name).Nodup) {d : Draft}
    (hnew : ∀ s ∈ sections, ∀ t ∈ d.sections, t.name ≠ s.name) (n : Nat) :
    ∃ ts : List Section, ts.map Section.unlined = sections.map Section.unlined ∧
      scan? d n ((sections.flatMap linesOf).map String.toList ++ [[]]) =
        some ⟨ts.reverse ++ d.sections⟩ := by
  induction sections generalizing d n with
  | nil => exact ⟨[], rfl, rfl⟩
  | cons s sections ih =>
      obtain ⟨hother, hdistinct⟩ := List.nodup_cons.1 hdistinct
      obtain ⟨t, hst, hscan⟩ := scan?_section (hs s List.mem_cons_self) (hw s List.mem_cons_self)
        (hnew s List.mem_cons_self) n ((sections.flatMap linesOf).map String.toList ++ [[]])
      have hname : t.name = s.name := by simpa [Section.unlined] using congrArg Section.name hst
      have hnew' : ∀ u ∈ sections, ∀ v ∈ t :: d.sections, v.name ≠ u.name := by
        intro u hu v hv
        rcases List.mem_cons.1 hv with rfl | hv
        · rw [hname]
          exact fun h => hother (h ▸ List.mem_map_of_mem hu)
        · exact hnew u (List.mem_cons_of_mem s hu) v hv
      obtain ⟨ts, hts, hrest⟩ := ih (fun u hu => hs u (List.mem_cons_of_mem s hu))
        (fun u hu => hw u (List.mem_cons_of_mem s hu)) hdistinct hnew' (n + 1 + s.entries.length)
      refine ⟨t :: ts, by simp [hst, hts], ?_⟩
      rw [List.flatMap_cons, List.map_append, List.append_assoc, hscan, hrest, List.reverse_cons,
        List.append_assoc]
      rfl

/-- **A data sheet is read back from its text**, but for the places of its lines. -/
theorem ofText_render_unlined {S : Sheet} (hS : S.Proper) (hw : ∀ s ∈ S.sections, s.Writable)
    (hsome : S.sections ≠ []) :
    ∃ T, (ofText S.render).outcome = .ok T ∧ T.unlined = S.unlined := by
  obtain ⟨ts, hts, hscan⟩ := scan?_sections (d := ⟨[]⟩) hS.sections hw hS.distinct
    (fun s _ t ht => by cases ht) 1
  refine ⟨⟨ts⟩, ?_, congrArg Sheet.mk hts⟩
  have hread : ts ≠ [] := by
    rintro rfl
    exact hsome (List.map_eq_nil_iff.1 hts.symm)
  rw [← Report.result?_eq_some_iff, result?_ofText, lines_render hsome hw, hscan, Option.bind_some,
    if_neg (by simpa using hread)]
  simp [Draft.sheet]

/-- A data sheet that is read back from its text says the same. -/
theorem ofText_render {S : Sheet} (hS : S.Proper) (hw : ∀ s ∈ S.sections, s.Writable)
    (hsome : S.sections ≠ []) : ∃ T, (ofText S.render).outcome = .ok T ∧ S.Restates T := by
  obtain ⟨T, hT, hunlined⟩ := ofText_render_unlined hS hw hsome
  exact ⟨T, hT, restates_of_unlined hunlined.symm⟩

end Sheet

end DataSheet
