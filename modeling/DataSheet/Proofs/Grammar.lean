/-
**The grammar of data sheets.**

Reading goes over a text once, line by line, and keeps the sections found so far.  This module says
what it accepts without such a state: which lines are headers and entries, and which line may stand
below which others.  A text is a data sheet exactly if every line of it may stand where it stands,
the data sheet then holds what the lines say, and a text that is none is refused for its first line
that may not stand there.

Main definitions:

* `Sheet.HeaderLine`, `Sheet.EntryLine` — the two shapes of lines that are not left out;
* `Sheet.written` — the lines of a text that are not left out, each with its number;
* `Sheet.Fits`, `Sheet.Grammatical` — a line may stand below the lines above it, and all lines may;
* `Sheet.Breaks` — the number of the first line that may not;
* `Section.Stated`, `Sheet.Stated` — a section and a data sheet hold what lines say.

Main results:

* `Sheet.Line.ofText_eq_header_iff`, `Sheet.Line.ofText_eq_entry_iff`,
  `Sheet.Line.ofText_eq_skipped_iff` — **what a line is follows from its shape**;
* `Sheet.Draft.Stated.add`, `Sheet.Draft.Stated.refuses` — a line is taken exactly if it fits;
* `sheet_follows_grammar` — **a text is read exactly by the grammar**, and read back when written.
-/

import DataSheet.Proofs.Rendered

set_option relaxedAutoImplicit false
set_option autoImplicit false

namespace DataSheet

namespace Sheet

/-! ### The grammar -/

/-- The line is a header: between its first character that is not blank, an opening bracket, and its
last closing bracket stands the name. -/
inductive HeaderLine : List Char → String → Prop
  | bracketed {margin part rest : List Char} (hm : Text.Blank margin) (hrest : ']' ∉ rest)
      (hgiven : Text.trim part ≠ []) :
      HeaderLine (margin ++ '[' :: (part ++ ']' :: rest)) (String.ofList (Text.trim part))

/-- The line is an entry: before its first delimiter stands the key, and all behind it is the value.
It does not open with the mark of a header or of a comment. -/
inductive EntryLine : List Char → String → String → Prop
  | delimited {part : List Char} {c : Char} (hpart : KeyPart part) (hc : isDelimiter c)
      (hgiven : Text.trim part ≠ []) (value : List Char) :
      EntryLine (part ++ c :: value) (String.ofList (Text.trim part))
        (String.ofList (Text.trim value))

/-- A line with its number. -/
abbrev Numbered := List Char × Nat

/-- The lines that are not left out, where the first one of all has the number `n`. -/
def writtenFrom (n : Nat) (ls : List (List Char)) : List Numbered :=
  (ls.zipIdx n).filter fun l => ¬Idle l.1

/-- The lines of a text that are neither blank nor comments. -/
def written (text : String) : List Numbered := writtenFrom 1 (lines text)

/-- The line may stand below the lines `above`: it is a header with a name that no header above it
has, or an entry with a key that no other one below the last header has. -/
inductive Fits (above : List Numbered) (line : List Char) : Prop
  | header {name : String} (h : HeaderLine line name) (hnew : ∀ l ∈ above, ¬HeaderLine l.1 name)
  | entry {key value name : String} {before inner : List Numbered} {top : Numbered}
      (h : EntryLine line key value) (habove : above = before ++ top :: inner)
      (htop : HeaderLine top.1 name)
      (hinner : ∀ l ∈ inner, ∃ key' value', EntryLine l.1 key' value' ∧ foldKey key' ≠ foldKey key)

/-- Each of the lines may stand where it stands, below `above` and the ones before it. -/
def Orderly (above ls : List Numbered) : Prop :=
  ∀ mid l below, ls = mid ++ l :: below → Fits (above ++ mid) l.1

/-- The lines make a data sheet: there are some, the first one is a header, and each of them may
stand where it stands. -/
structure Grammatical (ls : List Numbered) : Prop where
  given : ls ≠ []
  first : ∀ l rest, ls = l :: rest → ∃ name, HeaderLine l.1 name
  orderly : Orderly [] ls

/-- The first of the lines that may not stand where it stands has the number `n`. -/
def Breaks (above ls : List Numbered) (n : Nat) : Prop :=
  ∃ mid l below, ls = mid ++ l :: below ∧ l.2 = n ∧ Orderly above mid ∧ ¬Fits (above ++ mid) l.1

end Sheet

/-- The entry is what a line says. -/
structure Entry.Stated (l : Sheet.Numbered) (e : Entry) : Prop where
  said : Sheet.EntryLine l.1 e.spelling e.value
  line : e.line = l.2

/-- The section is what the line of its header says and the lines below it. -/
structure Section.Stated (top : Sheet.Numbered) (inner : List Sheet.Numbered) (s : Section) :
    Prop where
  name : Sheet.HeaderLine top.1 s.name
  line : s.line = top.2
  /-- The lines of the entries stand in any order. -/
  entries : ∃ es, s.entries.Perm es ∧ List.Forall₂ Entry.Stated inner es

namespace Sheet

/-- A header with the lines below it, up to the next one. -/
abbrev Block := Numbered × List Numbered

/-- All lines of a block. -/
def Block.lines (b : Block) : List Numbered := b.1 :: b.2

/-- The sections are what the lines say, one block of them for each. -/
def Stated (ls : List Numbered) (S : Sheet) : Prop :=
  ∃ blocks : List Block, ls = blocks.flatMap Block.lines ∧
    List.Forall₂ (fun b s => Section.Stated b.1 b.2 s) blocks S.sections

/-! ### What lines are -/

/-- Trimming takes blanks from the ends of a text. -/
theorem exists_blanks_trim (s : List Char) :
    ∃ a b, Text.Blank a ∧ Text.Blank b ∧ s = a ++ Text.trim s ++ b := by
  obtain ⟨b, hb, hrest⟩ := Text.exists_trimEnd_append (s.dropWhile Text.isBlank)
  refine ⟨s.takeWhile Text.isBlank, b, fun c hc => List.mem_takeWhile_imp hc, hb, ?_⟩
  have htrim : Text.trim s ++ b = s.dropWhile Text.isBlank := hrest.symm
  rw [List.append_assoc, htrim, List.takeWhile_append_dropWhile]

theorem eq_append_of_beforeLast? {c : Char} {s name : List Char}
    (h : beforeLast? c s = some name) : ∃ rest, c ∉ rest ∧ s = name ++ c :: rest := by
  unfold beforeLast? at h
  split at h
  · cases h
  next d r hr =>
    cases h
    have hhead := List.head?_dropWhile_not (· ≠ c) s.reverse
    rw [hr] at hhead
    have hd : d = c := by simpa using hhead
    refine ⟨(s.reverse.takeWhile (· ≠ c)).reverse, ?_, ?_⟩
    · intro hmem
      simpa using List.mem_takeWhile_imp (List.mem_reverse.1 hmem)
    · have hsplit := List.takeWhile_append_dropWhile (p := (· ≠ c)) (l := s.reverse)
      rw [hr, hd] at hsplit
      simpa using (congrArg List.reverse hsplit).symm

theorem eq_append_of_atDelimiter? {s key value : List Char}
    (h : atDelimiter? s = some (key, value)) : ∃ c, isDelimiter c ∧ s = key ++ c :: value ∧
      ∀ d ∈ key, isDelimiter d = false := by
  unfold atDelimiter? at h
  rw [List.span_eq_takeWhile_dropWhile] at h
  split at h
  · cases h
  next key' c value' hsplit =>
    cases h
    obtain ⟨rfl, hrest⟩ := Prod.mk.inj hsplit
    refine ⟨c, ?_, ?_, fun d hd => by simpa using List.mem_takeWhile_imp hd⟩
    · simpa [hrest] using List.head?_dropWhile_not (fun c => !isDelimiter c) s
    · rw [← hrest, List.takeWhile_append_dropWhile]

namespace Line

/-- A line is a header exactly if it has the shape of one. -/
theorem ofText_eq_header_iff {l : List Char} {name : String} :
    ofText l = .header name ↔ HeaderLine l name := by
  constructor
  · intro h
    obtain ⟨s, part, htrim, hpart, hgiven, rfl⟩ := header_cases h
    obtain ⟨rest, hrest, rfl⟩ := eq_append_of_beforeLast? hpart
    obtain ⟨a, b, ha, hb, hl⟩ := exists_blanks_trim l
    have hrest' : ']' ∉ rest ++ b := by
      intro hmem
      rcases List.mem_append.1 hmem with hmem | hmem
      · exact hrest hmem
      · exact absurd (hb _ hmem) (by decide)
    have hline : l = a ++ '[' :: (part ++ ']' :: (rest ++ b)) := by
      rw [hl, htrim]
      simp
    rw [hline]
    exact .bracketed ha hrest' hgiven
  · rintro ⟨hm, hrest, hgiven⟩
    rw [ofText_header hm _ hrest, if_neg hgiven]

/-- A line is an entry exactly if it has the shape of one. -/
theorem ofText_eq_entry_iff {l : List Char} {key value : String} :
    ofText l = .entry key value ↔ EntryLine l key value := by
  constructor
  · intro h
    obtain ⟨c, s, key', value', htrim, hc, hparts, hgiven, rfl, rfl⟩ := entry_cases h
    obtain ⟨d, hd, hsplit, hkey'⟩ := eq_append_of_atDelimiter? hparts
    obtain ⟨a, b, ha, hb, hl⟩ := exists_blanks_trim l
    have hpart : KeyPart (a ++ key') := by
      refine ⟨fun x hx => ?_, fun x hx => ?_⟩
      · rcases List.mem_append.1 hx with hx | hx
        · by_contra hdel
          have := isBlank_of_isDelimiter (by simpa using hdel)
          simp [ha x hx] at this
        · exact hkey' x hx
      · rw [Text.dropWhile_blank_append ha] at hx
        cases key' with
        | nil => cases hx
        | cons k key' =>
            -- the line opens with the first character of the key
            obtain ⟨rfl, -⟩ := List.cons.inj hsplit
            rw [List.dropWhile_cons_of_neg (by simp [not_isBlank_of_trim htrim])] at hx
            cases hx
            exact hc
    have hline : l = (a ++ key') ++ d :: (value' ++ b) := by
      rw [hl, htrim, hsplit]
      simp
    rw [hline, ← Text.trim_blank_append ha key', ← Text.trim_append_blank value' hb]
    exact .delimited hpart hd (by rwa [Text.trim_blank_append ha]) _
  · rintro ⟨hpart, hc, hgiven, value⟩
    rw [ofText_entry hpart hc, if_neg hgiven]

/-- A line is left out exactly if it is blank or a comment. -/
theorem ofText_eq_skipped_iff {l : List Char} : ofText l = .skipped ↔ Idle l := by
  refine ⟨fun h c hc => ?_, ofText_idle⟩
  have hblank : Text.isBlank c = false := by
    simpa [hc] using List.head?_dropWhile_not Text.isBlank l
  obtain ⟨s, hs⟩ : ∃ s, l.dropWhile Text.isBlank = c :: s := by
    cases hd : l.dropWhile Text.isBlank with
    | nil => simp [hd] at hc
    | cons d s => exact ⟨s, by simpa [hd] using hc⟩
  have htrim : Text.trim l = c :: Text.trimEnd s := by
    rw [← Text.trim_dropWhile, hs]
    exact Text.trim_append_cons [] s hblank
  unfold ofText at h
  rw [htrim] at h
  by_contra hmark
  simp only [hmark, if_false] at h
  split at h
  · unfold ofHeader at h
    split at h
    · cases h
    · dsimp only at h
      split at h <;> cases h
  · unfold ofEntry at h
    split at h
    · cases h
    · dsimp only at h
      split at h <;> cases h

end Line

theorem HeaderLine.unique {l : List Char} {name name' : String} (h : HeaderLine l name)
    (h' : HeaderLine l name') : name = name' := by
  have := (Line.ofText_eq_header_iff.2 h).symm.trans (Line.ofText_eq_header_iff.2 h')
  simpa using this

theorem EntryLine.unique {l : List Char} {key key' value value' : String}
    (h : EntryLine l key value) (h' : EntryLine l key' value') : key = key' := by
  have := (Line.ofText_eq_entry_iff.2 h).symm.trans (Line.ofText_eq_entry_iff.2 h')
  simp only [Line.entry.injEq] at this
  exact this.1

/-- No line is a header and an entry. -/
theorem EntryLine.not_header {l : List Char} {key value : String} (h : EntryLine l key value)
    (name : String) : ¬HeaderLine l name := by
  intro h'
  have := (Line.ofText_eq_entry_iff.2 h).symm.trans (Line.ofText_eq_header_iff.2 h')
  cases this

/-! ### Lines in order -/

theorem orderly_nil (above : List Numbered) : Orderly above [] := by
  intro mid l below h
  simp at h

theorem orderly_cons_iff {above : List Numbered} {l : Numbered} {ls : List Numbered} :
    Orderly above (l :: ls) ↔ Fits above l.1 ∧ Orderly (above ++ [l]) ls := by
  constructor
  · intro h
    refine ⟨by simpa using h [] l ls rfl, fun mid k below hk => ?_⟩
    have := h (l :: mid) k below (by simp [hk])
    simpa using this
  · rintro ⟨hfirst, hrest⟩ mid k below hk
    cases mid with
    | nil =>
        obtain ⟨rfl, -⟩ := List.cons.inj hk
        simpa using hfirst
    | cons m mid =>
        obtain ⟨rfl, hls⟩ := List.cons.inj hk
        simpa using hrest mid k below hls

/-- The first line that breaks the grammar is not before one that does not. -/
theorem Breaks.cons {above ls : List Numbered} {l : Numbered} {n : Nat} (hl : Fits above l.1)
    (h : Breaks (above ++ [l]) ls n) : Breaks above (l :: ls) n := by
  obtain ⟨mid, k, below, rfl, hn, hmid, hk⟩ := h
  refine ⟨l :: mid, k, below, rfl, hn, orderly_cons_iff.2 ⟨hl, hmid⟩, ?_⟩
  simpa using hk

theorem Breaks.not_orderly {above ls : List Numbered} {n : Nat} (h : Breaks above ls n) :
    ¬Orderly above ls := by
  obtain ⟨mid, l, below, rfl, -, -, hl⟩ := h
  exact fun ho => hl (ho mid l below rfl)

/-- Below nothing only a header may stand. -/
theorem Fits.header_of_nil {line : List Char} (h : Fits [] line) :
    ∃ name, HeaderLine line name := by
  cases h with
  | header h hnew => exact ⟨_, h⟩
  | entry h habove htop hinner => simp at habove

theorem grammatical_iff {ls : List Numbered} : Grammatical ls ↔ ls ≠ [] ∧ Orderly [] ls := by
  refine ⟨fun h => ⟨h.given, h.orderly⟩, fun h => ⟨h.1, ?_, h.2⟩⟩
  intro l rest hls
  exact (h.2 [] l rest hls).header_of_nil

theorem writtenFrom_cons_of_idle {l : List Char} (h : Idle l) (n : Nat) (ls : List (List Char)) :
    writtenFrom n (l :: ls) = writtenFrom (n + 1) ls := by
  simp [writtenFrom, h]

theorem writtenFrom_cons {l : List Char} (h : ¬Idle l) (n : Nat) (ls : List (List Char)) :
    writtenFrom n (l :: ls) = (l, n) :: writtenFrom (n + 1) ls := by
  simp [writtenFrom, h]

end Sheet

/-! ### What sections hold -/

/-- Related lists have related items. -/
theorem exists_of_forall₂ {α β : Type} {R : α → β → Prop} {l : List α} {l' : List β}
    (h : List.Forall₂ R l l') {a : α} (ha : a ∈ l) : ∃ b ∈ l', R a b := by
  induction h with
  | nil => cases ha
  | @cons a' b l l' hab _ ih =>
      rcases List.mem_cons.1 ha with rfl | ha
      · exact ⟨b, List.mem_cons_self, hab⟩
      · obtain ⟨b', hb', hab'⟩ := ih ha
        exact ⟨b', List.mem_cons_of_mem b hb', hab'⟩

/-- An item with a new key is entered beside the others. -/
theorem Ascending.perm_insert {κ α : Type} [DecidableEq κ] [LT κ] [DecidableLT κ] {f : α → κ}
    {a : α} {l : List α} (h : ∀ b ∈ l, f b ≠ f a) : (insert f a l).Perm (l ++ [a]) := by
  induction l with
  | nil => exact .refl _
  | cons b l ih =>
      obtain ⟨hb, hl⟩ := List.forall_mem_cons.1 h
      rw [insert, if_neg hb.symm]
      split
      · exact (List.perm_append_singleton a (b :: l)).symm
      · exact (ih hl).cons b

theorem Section.has_iff {s : Section} {key : String} :
    s.has key ↔ ∃ e ∈ s.entries, e.key = foldKey key := by
  simp [has, entry?, Ascending.find?, List.find?_isSome]

namespace Section.Stated

open Sheet

variable {top : Numbered} {inner : List Numbered} {s : Section}

/-- The lines below the header are those of the entries. -/
theorem exists_entry (h : s.Stated top inner) {l : Numbered} (hl : l ∈ inner) :
    ∃ e ∈ s.entries, EntryLine l.1 e.spelling e.value := by
  obtain ⟨es, hperm, hes⟩ := h.entries
  obtain ⟨e, he, hle⟩ := exists_of_forall₂ hes hl
  exact ⟨e, hperm.mem_iff.2 he, hle.said⟩

theorem exists_line (h : s.Stated top inner) {e : Entry} (he : e ∈ s.entries) :
    ∃ l ∈ inner, EntryLine l.1 e.spelling e.value := by
  obtain ⟨es, hperm, hes⟩ := h.entries
  obtain ⟨l, hl, hle⟩ := exists_of_forall₂ hes.flip (hperm.mem_iff.1 he)
  exact ⟨l, hl, hle.said⟩

/-- The section has a key exactly if a line below the header has it. -/
theorem has_iff (h : s.Stated top inner) (hs : s.Proper) {key : String} :
    s.has key ↔ ∃ l ∈ inner, ∃ key' value', EntryLine l.1 key' value' ∧
      foldKey key' = foldKey key := by
  rw [Section.has_iff]
  constructor
  · rintro ⟨e, he, hkey⟩
    obtain ⟨l, hl, hle⟩ := h.exists_line he
    exact ⟨l, hl, _, _, hle, by rw [← hs.folded e he, hkey]⟩
  · rintro ⟨l, hl, key', value', hline, hkey⟩
    obtain ⟨e, he, hle⟩ := h.exists_entry hl
    refine ⟨e, he, ?_⟩
    rw [hs.folded e he, hle.unique hline, hkey]

/-- A section with one more entry holds one more line. -/
theorem insert (h : s.Stated top inner) {l : List Char} {key value : String}
    (hl : EntryLine l key value) (hnew : ¬s.has key) (n : Nat) :
    (s.insert (Entry.ofLine key value n)).Stated top (inner ++ [(l, n)]) where
  name := h.name
  line := h.line
  entries := by
    obtain ⟨es, hperm, hes⟩ := h.entries
    refine ⟨es ++ [Entry.ofLine key value n], ?_, List.rel_append hes (.cons ⟨hl, rfl⟩ .nil)⟩
    have habsent : ∀ e ∈ s.entries, e.key ≠ foldKey key := fun e he hkey =>
      hnew (Section.has_iff.2 ⟨e, he, hkey⟩)
    exact (Ascending.perm_insert habsent).trans (hperm.append_right _)

end Section.Stated

namespace Sheet

/-! ### What is read so far -/

/-- The sections read so far hold what the lines above say, the latest block first. -/
structure Draft.Stated (d : Draft) (above : List Numbered) : Prop where
  blocks : ∃ blocks : List Block, above = blocks.reverse.flatMap Block.lines ∧
    List.Forall₂ (fun b s => Section.Stated b.1 b.2 s) blocks d.sections
  proper : (Sheet.mk d.sections).Proper

theorem HeaderLine.fits_iff {above : List Numbered} {line : List Char} {name : String}
    (h : HeaderLine line name) : Fits above line ↔ ¬∃ l ∈ above, HeaderLine l.1 name := by
  constructor
  · rintro (⟨h', hnew⟩ | ⟨h', -, -, -⟩)
    · rintro ⟨l, hl, hname⟩
      rw [h'.unique h] at hnew
      exact hnew l hl hname
    · exact absurd h (h'.not_header name)
  · intro hnew
    exact .header h fun l hl hname => hnew ⟨l, hl, hname⟩

/-- Two ways to part lines at a header with entries below it are the same. -/
theorem inner_unique {before before' inner inner' : List Numbered} {top top' : Numbered}
    {name name' : String} (h : before ++ top :: inner = before' ++ top' :: inner')
    (htop : HeaderLine top.1 name) (htop' : HeaderLine top'.1 name')
    (hinner : ∀ l ∈ inner, ∃ key value, EntryLine l.1 key value)
    (hinner' : ∀ l ∈ inner', ∃ key value, EntryLine l.1 key value) : inner = inner' := by
  rcases List.append_eq_append_iff.1 h with ⟨mid, -, hmid⟩ | ⟨mid, -, hmid⟩
  · cases mid with
    | nil => exact (List.cons.inj hmid).2
    | cons m mid =>
        -- the second header would stand among the entries
        have hmem : top' ∈ inner := by simp [(List.cons.inj hmid).2]
        obtain ⟨key, value, hentry⟩ := hinner top' hmem
        exact absurd htop' (hentry.not_header name')
  · cases mid with
    | nil => exact (List.cons.inj hmid).2.symm
    | cons m mid =>
        have hmem : top ∈ inner' := by simp [(List.cons.inj hmid).2]
        obtain ⟨key, value, hentry⟩ := hinner' top hmem
        exact absurd htop (hentry.not_header name)

/-- An entry fits below a section exactly if the section does not have its key. -/
theorem EntryLine.fits_iff {before inner : List Numbered} {top : Numbered} {line : List Char}
    {key value : String} (h : EntryLine line key value) {s : Section}
    (hs : s.Stated top inner) (hproper : s.Proper) :
    Fits (before ++ top :: inner) line ↔ ¬s.has key := by
  rw [hs.has_iff hproper]
  constructor
  · rintro (⟨h', -⟩ | ⟨h', habove, htop, hother⟩)
    · exact absurd h' (h.not_header _)
    · have hentries : ∀ l ∈ inner, ∃ key value, EntryLine l.1 key value := fun l hl => by
        obtain ⟨e, -, he⟩ := hs.exists_entry hl
        exact ⟨_, _, he⟩
      obtain rfl := inner_unique habove hs.name htop hentries fun l hl => by
        obtain ⟨key', value', hl, -⟩ := hother l hl
        exact ⟨key', value', hl⟩
      rintro ⟨l, hl, key', value', hkey', hsame⟩
      obtain ⟨key'', value'', hkey'', hne⟩ := hother l hl
      rw [hkey''.unique hkey', h'.unique h] at hne
      exact hne hsame
  · intro hnew
    refine .entry h rfl hs.name fun l hl => ?_
    obtain ⟨e, -, he⟩ := hs.exists_entry hl
    exact ⟨_, _, he, fun hsame => hnew ⟨l, hl, _, _, he, hsame⟩⟩

namespace Draft.Stated

variable {d : Draft} {above : List Numbered}

theorem empty : (Draft.mk []).Stated [] where
  blocks := ⟨[], rfl, .nil⟩
  proper := ⟨List.nodup_nil, fun s hs => by cases hs⟩

/-- The headers above are those of the sections. -/
theorem header_iff (h : d.Stated above) {name : String} :
    (∃ l ∈ above, HeaderLine l.1 name) ↔ ∃ s ∈ d.sections, s.name = name := by
  obtain ⟨blocks, rfl, hblocks⟩ := h.blocks
  constructor
  · rintro ⟨l, hl, hname⟩
    obtain ⟨b, hb, hl⟩ := List.mem_flatMap.1 hl
    obtain ⟨s, hs, hbs⟩ := exists_of_forall₂ hblocks (List.mem_reverse.1 hb)
    refine ⟨s, hs, ?_⟩
    rcases List.mem_cons.1 hl with rfl | hl
    · exact hbs.name.unique hname
    · obtain ⟨e, -, he⟩ := hbs.exists_entry hl
      exact absurd hname (he.not_header name)
  · rintro ⟨s, hs, rfl⟩
    obtain ⟨b, hb, hbs⟩ := exists_of_forall₂ hblocks.flip hs
    exact ⟨b.1, List.mem_flatMap.2 ⟨b, List.mem_reverse.2 hb, List.mem_cons_self⟩, hbs.name⟩

/-- A header is taken exactly if it fits. -/
theorem add_header (h : d.Stated above) {l : List Char} {name : String} (hl : HeaderLine l name)
    (n : Nat) :
    (∃ d', d.add n (.header name) = .ok d' ∧ d'.Stated (above ++ [(l, n)]) ∧ Fits above l) ∨
      ∃ how, d.add n (.header name) = .error how ∧ ¬Fits above l := by
  rw [hl.fits_iff, h.header_iff]
  by_cases hknown : ∃ s ∈ d.sections, s.name = name
  · refine .inr ⟨.duplicateSection, ?_, by simpa using hknown⟩
    simpa [Draft.add] using hknown
  · have hadd : d.add n (.header name) = .ok ⟨⟨name, n, []⟩ :: d.sections⟩ := by
      simpa [Draft.add] using hknown
    refine .inl ⟨_, hadd, ⟨?_, Draft.proper_add h.proper hadd⟩, hknown⟩
    obtain ⟨blocks, rfl, hblocks⟩ := h.blocks
    refine ⟨((l, n), []) :: blocks, by simp [Block.lines], .cons ⟨hl, rfl, [], ?_⟩ hblocks⟩
    exact ⟨.refl _, .nil⟩

/-- An entry is taken exactly if it fits. -/
theorem add_entry (h : d.Stated above) {l : List Char} {key value : String}
    (hl : EntryLine l key value) (n : Nat) :
    (∃ d', d.add n (.entry key value) = .ok d' ∧ d'.Stated (above ++ [(l, n)]) ∧
        Fits above l) ∨
      ∃ how, d.add n (.entry key value) = .error how ∧ ¬Fits above l := by
  obtain ⟨sections⟩ := d
  obtain ⟨blocks, rfl, hblocks⟩ := h.blocks
  cases hblocks with
  | nil =>
      refine .inr ⟨.strayEntry, rfl, fun hfits => ?_⟩
      obtain ⟨name, hname⟩ := hfits.header_of_nil
      exact hl.not_header name hname
  | @cons b s blocks earlier hbs hrest =>
      have hproper := h.proper.sections s List.mem_cons_self
      have habove : (b :: blocks).reverse.flatMap Block.lines =
          blocks.reverse.flatMap Block.lines ++ b.1 :: b.2 := by
        simp [Block.lines]
      rw [habove, hl.fits_iff hbs hproper]
      by_cases hhas : s.has key
      · exact .inr ⟨.duplicateKey, by simp [Draft.add, hhas], by simpa using hhas⟩
      · have hadd : (Draft.mk (s :: earlier)).add n (.entry key value) =
            .ok ⟨s.insert (Entry.ofLine key value n) :: earlier⟩ := by
          simp [Draft.add, hhas]
        refine .inl ⟨_, hadd, ⟨?_, Draft.proper_add h.proper hadd⟩, hhas⟩
        refine ⟨(b.1, b.2 ++ [(l, n)]) :: blocks, by simp [Block.lines], ?_⟩
        exact .cons (hbs.insert hl hhas n) hrest

/-- **A line is taken exactly if it fits**, and then the sections hold what it says. -/
theorem add (h : d.Stated above) {l : List Char} (hl : ¬Idle l) (n : Nat) :
    (∃ d', d.add n (Line.ofText l) = .ok d' ∧ d'.Stated (above ++ [(l, n)]) ∧ Fits above l) ∨
      ∃ how, d.add n (Line.ofText l) = .error how ∧ ¬Fits above l := by
  cases hline : Line.ofText l with
  | skipped => exact absurd (Line.ofText_eq_skipped_iff.1 hline) hl
  | bad how =>
      refine .inr ⟨how, rfl, ?_⟩
      rintro (⟨h', -⟩ | ⟨h', -, -, -⟩)
      · cases hline.symm.trans (Line.ofText_eq_header_iff.2 h')
      · cases hline.symm.trans (Line.ofText_eq_entry_iff.2 h')
  | header name => exact h.add_header (Line.ofText_eq_header_iff.1 hline) n
  | entry key value => exact h.add_entry (Line.ofText_eq_entry_iff.1 hline) n

/-- **Reading goes on as long as lines fit**, and ends at the first one that does not. -/
theorem scan (h : d.Stated above) (n : Nat) (ls : List (List Char)) :
    (∃ d', scan d n ls = (d', none) ∧ d'.Stated (above ++ writtenFrom n ls) ∧
        Orderly above (writtenFrom n ls)) ∨
      ∃ d' m how, scan d n ls = (d', some (.malformed m how)) ∧
        Breaks above (writtenFrom n ls) m := by
  induction ls generalizing d above n with
  | nil => exact .inl ⟨d, rfl, by simpa [writtenFrom] using h, orderly_nil above⟩
  | cons l ls ih =>
      rw [Sheet.scan]
      by_cases hidle : Idle l
      · rw [Line.ofText_idle hidle, writtenFrom_cons_of_idle hidle]
        exact ih h (n + 1)
      rw [writtenFrom_cons hidle]
      rcases h.add hidle n with ⟨d', hadd, hd', hfits⟩ | ⟨how, hadd, hfits⟩
      · rw [hadd]
        rcases ih hd' (n + 1) with ⟨e, hscan, he, horderly⟩ | ⟨e, m, how, hscan, hbreaks⟩
        · refine .inl ⟨e, hscan, ?_, orderly_cons_iff.2 ⟨hfits, horderly⟩⟩
          simpa using he
        · exact .inr ⟨e, m, how, hscan, hbreaks.cons hfits⟩
      · rw [hadd]
        refine .inr ⟨d, n, how, rfl, [], (l, n), _, rfl, rfl, orderly_nil above, ?_⟩
        simpa using hfits

end Draft.Stated

/-! ### Texts -/

/-- A text gives a data sheet that holds what its lines say, and they make one; or it is refused for
its first line that breaks the grammar, or because it has none. -/
theorem ofText_cases (text : String) :
    (∃ S, (ofText text).outcome = .ok S ∧ Grammatical (written text) ∧
        S.Stated (written text)) ∨
      ∃ n how, (ofText text).outcome = .error (.malformed n how) ∧
        (Breaks [] (written text) n ∨ written text = [] ∧ n = 0) := by
  rcases Draft.Stated.empty.scan 1 (lines text) with
    ⟨d, hscan, hd, horderly⟩ | ⟨d, n, how, hscan, hbreaks⟩
  · obtain ⟨blocks, hlines, hblocks⟩ := hd.blocks
    change written text = _ at hlines
    unfold ofText
    rw [hscan]
    dsimp only
    by_cases hnone : d.sections = []
    · refine .inr ⟨0, .noSections, by simp [hnone], .inr ⟨?_, rfl⟩⟩
      rw [hnone, List.forall₂_nil_right_iff] at hblocks
      simpa [hblocks] using hlines
    · refine .inl ⟨d.sheet, by simp [hnone], grammatical_iff.2 ⟨?_, horderly⟩, blocks.reverse,
        hlines, List.rel_reverse hblocks⟩
      intro hempty
      cases blocks with
      | nil => exact hnone (List.forall₂_nil_left_iff.1 hblocks)
      | cons b blocks => simp [hempty, Block.lines] at hlines
  · refine .inr ⟨n, how, ?_, .inl hbreaks⟩
    unfold ofText
    rw [hscan]

/-- A section is found by its name, and nothing else is. -/
theorem Proper.find?_eq_some_iff {S : Sheet} (hS : S.Proper) {name : String} {s : Section} :
    S.find? name = some s ↔ s ∈ S.sections ∧ s.name = name := by
  constructor
  · intro h
    exact ⟨List.mem_of_find?_eq_some h, by simpa using List.find?_some h⟩
  · rintro ⟨hs, rfl⟩
    obtain ⟨t, ht⟩ : ∃ t, S.find? s.name = some t := by
      rw [← Option.isSome_iff_exists, find?, List.find?_isSome]
      exact ⟨s, hs, by simp⟩
    have hts : t.name = s.name := by simpa using List.find?_some ht
    rw [ht, List.inj_on_of_nodup_map hS.distinct (List.mem_of_find?_eq_some ht) hs hts]

end Sheet

/-- **Texts are read by the grammar.**  A text is a data sheet exactly if its lines make one.  The
data sheet holds what the lines say, with each section under its name, and is read back when it is
written, but for the places of its lines.  A text that is refused is refused for its first line that
breaks the grammar, or at line zero if it has no lines but blank ones and comments. -/
theorem sheet_follows_grammar (text : String) :
    ((∃ S, (Sheet.ofText text).outcome = .ok S) ↔ Sheet.Grammatical (Sheet.written text)) ∧
      (∀ S, (Sheet.ofText text).outcome = .ok S →
        S.Stated (Sheet.written text) ∧ S.Proper ∧
          (∀ name s, S.find? name = some s ↔ s ∈ S.sections ∧ s.name = name) ∧
          ∃ T, (Sheet.ofText S.render).outcome = .ok T ∧ T.unlined = S.unlined) ∧
      ∀ f, (Sheet.ofText text).outcome = .error f →
        ∃ n how, f = .malformed n how ∧
          (Sheet.Breaks [] (Sheet.written text) n ∨ Sheet.written text = [] ∧ n = 0) := by
  rcases Sheet.ofText_cases text with ⟨S, hS, hgrammar, hstated⟩ | ⟨n, how, hfault, hline⟩
  · have hproper := Sheet.proper_ofText hS
    have hsome : S.sections ≠ [] := by
      obtain ⟨blocks, hlines, hblocks⟩ := hstated
      rintro hnone
      rw [hnone, List.forall₂_nil_right_iff] at hblocks
      exact hgrammar.given (by simp [hlines, hblocks])
    have hback := Sheet.ofText_render_unlined hproper (Sheet.writable_ofText hS) hsome
    refine ⟨⟨fun _ => hgrammar, fun _ => ⟨S, hS⟩⟩, fun T hT => ?_, fun f hf => ?_⟩
    · cases hS.symm.trans hT
      exact ⟨hstated, hproper, fun _ _ => hproper.find?_eq_some_iff, hback⟩
    · cases hS.symm.trans hf
  · refine ⟨⟨fun ⟨S, hS⟩ => ?_, fun hgrammar => ?_⟩, fun S hS => ?_, fun f hf => ?_⟩
    · cases hfault.symm.trans hS
    · rcases hline with hbreaks | ⟨hnone, -⟩
      · exact absurd hgrammar.orderly hbreaks.not_orderly
      · exact absurd hnone hgrammar.given
    · cases hfault.symm.trans hS
    · cases hfault.symm.trans hf
      exact ⟨n, how, rfl, hline⟩

end DataSheet
