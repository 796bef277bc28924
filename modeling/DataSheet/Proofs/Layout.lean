/-
**The layout of a data sheet does not matter.**

A text is read line by line, and a line is looked at without the blanks around its pieces.  So a
text may be laid out otherwise: with blank lines and comments between its lines, blanks around
names, keys and values, one delimiter in the stead of the other, and keys in other letter case.

Main definitions:

* `Sheet.Line.Restates` — what a line is, in other words;
* `Sheet.Idle` — a blank line or a comment;
* `Sheet.Respells` — a line laid out otherwise in one respect;
* `Sheet.Relays`, `Sheet.Relaid` — one line of a text added or laid out otherwise.

Main results:

* `Sheet.Line.ofText_entry`, `Sheet.Line.ofText_header` — what a line of these shapes is;
* `Sheet.Respells.restates` — a line says the same in another layout;
* `layout_irrelevant` — **a text laid out otherwise gives the same dictionary**, or both give none.
-/

import DataSheet.Proofs.Restated
import Mathlib.Data.List.TakeDrop
import Mathlib.Logic.Relation

set_option relaxedAutoImplicit false
set_option autoImplicit false

namespace DataSheet

namespace Sheet

/-! ### Single lines -/

/-- The line is the same in other words: only a key may be spelled otherwise. -/
inductive Line.Restates : Line → Line → Prop
  | same (l : Line) : Restates l l
  | entry {key key' : String} (h : SameKey key key') (value : String) :
      Restates (.entry key value) (.entry key' value)

/-- A blank line, or a comment. -/
def Idle (line : List Char) : Prop :=
  ∀ c, (line.dropWhile Text.isBlank).head? = some c → c = ';' ∨ c = '#'

instance (line : List Char) : Decidable (Idle line) :=
  decidable_of_iff ((line.dropWhile Text.isBlank).head?.all fun c => c = ';' ∨ c = '#')
    (by simp [Idle, Option.all_eq_true])

/-- What may stand before the delimiter of an entry: no delimiter, and nothing that makes a comment
or a header of the line. -/
structure KeyPart (key : List Char) : Prop where
  undelimited : ∀ c ∈ key, isDelimiter c = false
  opening : ∀ c, (key.dropWhile Text.isBlank).head? = some c → c ≠ ';' ∧ c ≠ '#' ∧ c ≠ '['

instance (key : List Char) : Decidable (KeyPart key) :=
  decidable_of_iff ((key.all fun c => !isDelimiter c) ∧
    (key.dropWhile Text.isBlank).head?.all fun c => c ∉ [';', '#', '['])
    ⟨fun h => ⟨by simpa using h.1, by simpa [Option.all_eq_true] using h.2⟩,
      fun h => ⟨by simpa using h.undelimited, by simpa [Option.all_eq_true] using h.opening⟩⟩

/-- The line is laid out otherwise in one respect. -/
inductive Respells : List Char → List Char → Prop
  /-- Blanks at the start and at the end. -/
  | margins (before line after : List Char) (hb : Text.Blank before) (ha : Text.Blank after) :
      Respells line (before ++ line ++ after)
  /-- Blanks around the name in a header, which ends at the last closing bracket. -/
  | name (margin before name after rest : List Char) (hm : Text.Blank margin)
      (hb : Text.Blank before) (ha : Text.Blank after) (hrest : ']' ∉ rest) :
      Respells (margin ++ '[' :: (name ++ ']' :: rest))
        (margin ++ '[' :: (before ++ name ++ after ++ ']' :: rest))
  /-- Blanks around the first delimiter of an entry, and the other delimiter. -/
  | delimiter (key before : List Char) (c c' : Char) (after value : List Char) (hk : KeyPart key)
      (hc : isDelimiter c) (hc' : isDelimiter c') (hb : Text.Blank before)
      (ha : Text.Blank after) :
      Respells (key ++ c :: value) (key ++ before ++ c' :: (after ++ value))
  /-- Another letter case of the key, but for the name of a bit field. -/
  | letterCase (key key' : List Char) (c : Char) (value : List Char) (hk : KeyPart key)
      (hc : isDelimiter c) (hcase : Text.lower key = Text.lower key')
      (hfield : fieldStem.isPrefixOf (Text.lower (Text.trim key)) →
        (Text.trim key).drop fieldStem.length = (Text.trim key').drop fieldStem.length) :
      Respells (key ++ c :: value) (key' ++ c :: value)

/-- A line is added or laid out otherwise. -/
inductive Relays : List (List Char) → List (List Char) → Prop
  | insert (above : List (List Char)) (line : List Char) (below : List (List Char))
      (h : Idle line) : Relays (above ++ below) (above ++ line :: below)
  | respell (above : List (List Char)) {line line' : List Char} (below : List (List Char))
      (h : Respells line line') : Relays (above ++ line :: below) (above ++ line' :: below)

/-- One line of the text is added or laid out otherwise.  Lines end at line feeds. -/
def Relaid (text text' : String) : Prop :=
  Relays (text.toList.splitOn '\n') (text'.toList.splitOn '\n')

/-! ### What lines are -/

theorem isBlank_of_isDelimiter {c : Char} (h : isDelimiter c) : Text.isBlank c = false := by
  simp only [isDelimiter, Bool.or_eq_true, beq_iff_eq] at h
  rcases h with rfl | rfl <;> decide

theorem atDelimiter?_append {key : List Char} (hk : ∀ c ∈ key, isDelimiter c = false) {c : Char}
    (hc : isDelimiter c) (value : List Char) :
    atDelimiter? (key ++ c :: value) = some (key, value) := by
  have hkey : ∀ d ∈ key, (!isDelimiter d) = true := by
    intro d hd
    rw [hk d hd]
    rfl
  unfold atDelimiter?
  rw [List.span_eq_takeWhile_dropWhile, List.takeWhile_append_of_pos hkey,
    List.dropWhile_append_of_pos hkey]
  simp [hc]

theorem beforeLast?_append (name : List Char) {c : Char} {rest : List Char} (hrest : c ∉ rest) :
    beforeLast? c (name ++ c :: rest) = some name := by
  have hbehind : ∀ d ∈ rest.reverse, decide (d ≠ c) = true := fun d hd =>
    decide_eq_true fun h => hrest (h ▸ List.mem_reverse.1 hd)
  unfold beforeLast?
  rw [List.reverse_append, List.reverse_cons, List.append_assoc,
    List.dropWhile_append_of_pos hbehind, List.singleton_append,
    List.dropWhile_cons_of_neg (by simp)]
  exact congrArg some name.reverse_reverse

namespace Line

theorem ofText_congr {s t : List Char} (h : Text.trim s = Text.trim t) : ofText s = ofText t := by
  unfold ofText
  rw [h]

theorem ofText_idle {s : List Char} (h : Idle s) : ofText s = .skipped := by
  unfold Idle at h
  unfold ofText
  rw [← Text.trim_dropWhile]
  generalize s.dropWhile Text.isBlank = t at h
  cases t with
  | nil => rfl
  | cons c t =>
      have hc := h c rfl
      have hblank : Text.isBlank c = false := by rcases hc with rfl | rfl <;> decide
      have htrim : Text.trim (c :: t) = c :: Text.trimEnd t := Text.trim_append_cons [] t hblank
      rw [htrim]
      exact if_pos hc

/-- A line with a delimiter is an entry. -/
theorem ofText_entry {key : List Char} {c : Char} (hk : KeyPart key) (hc : isDelimiter c)
    (value : List Char) : ofText (key ++ c :: value) =
      if Text.trim key = [] then .bad .emptyKey
      else .entry (String.ofList (Text.trim key)) (String.ofList (Text.trim value)) := by
  have hundelimited : ∀ d ∈ key.dropWhile Text.isBlank, isDelimiter d = false := fun d hd =>
    hk.undelimited d ((List.dropWhile_sublist _).subset hd)
  have hopening := hk.opening
  have hentry : ofEntry (key.dropWhile Text.isBlank ++ c :: Text.trimEnd value) =
      if Text.trim key = [] then .bad .emptyKey
      else .entry (String.ofList (Text.trim key)) (String.ofList (Text.trim value)) := by
    unfold ofEntry
    rw [atDelimiter?_append hundelimited hc]
    dsimp only
    rw [Text.trim_dropWhile, Text.trim_trimEnd]
  unfold ofText
  rw [Text.trim_append_cons _ _ (isBlank_of_isDelimiter hc)]
  generalize key.dropWhile Text.isBlank = k at hentry hopening
  cases k with
  | nil =>
      rw [List.nil_append] at hentry ⊢
      unfold isDelimiter at hc
      have hhead : c = '=' ∨ c = ':' := by simpa using hc
      rcases hhead with rfl | rfl <;> exact hentry
  | cons d k =>
      obtain ⟨hsemicolon, hhash, hbracket⟩ := hopening d rfl
      rw [List.cons_append] at hentry ⊢
      simp only [hsemicolon, hhash, hbracket, or_self, if_false]
      exact hentry

/-- A line that opens a bracket is a header, the name of which the last closing bracket ends. -/
theorem ofText_header {margin rest : List Char} (hm : Text.Blank margin) (name : List Char)
    (hrest : ']' ∉ rest) : ofText (margin ++ '[' :: (name ++ ']' :: rest)) =
      if Text.trim name = [] then .bad .emptyName
      else .header (String.ofList (Text.trim name)) := by
  have htrim : Text.trim (margin ++ '[' :: (name ++ ']' :: rest)) =
      '[' :: (name ++ ']' :: Text.trimEnd rest) := by
    rw [Text.trim_blank_append hm]
    exact Text.trim_append_cons ('[' :: name) rest (by decide)
  have hrest' : ']' ∉ Text.trimEnd rest := by
    obtain ⟨b, -, hb⟩ := Text.exists_trimEnd_append rest
    intro hmem
    rw [hb] at hrest
    exact hrest (List.mem_append_left b hmem)
  unfold ofText
  rw [htrim]
  change ofHeader (name ++ ']' :: Text.trimEnd rest) = _
  unfold ofHeader
  rw [beforeLast?_append name hrest']

end Line

/-! ### Lines laid out otherwise -/

/-- Blanks behind the part before a delimiter do not change what it is. -/
theorem KeyPart.append {key after : List Char} (hk : KeyPart key) (ha : Text.Blank after) :
    KeyPart (key ++ after) where
  undelimited := by
    intro c hc
    rcases List.mem_append.1 hc with hc | hc
    · exact hk.undelimited c hc
    · cases hd : isDelimiter c with
      | false => rfl
      | true => exact absurd (ha c hc) (by rw [isBlank_of_isDelimiter hd]; decide)
  opening := by
    intro c hc
    rw [List.dropWhile_append] at hc
    split at hc
    next =>
      rw [List.dropWhile_eq_nil_iff.2 ha] at hc
      cases hc
    next h =>
      refine hk.opening c ?_
      cases hkey : key.dropWhile Text.isBlank with
      | nil => exact absurd (by rw [hkey]; rfl) h
      | cons d k =>
          rw [hkey] at hc
          exact hc

/-- The part before a delimiter may be spelled in another letter case.  What it must not hold or
open with is no letter. -/
theorem KeyPart.of_lower {key key' : List Char} (hk : KeyPart key)
    (h : Text.lower key = Text.lower key') : KeyPart key' where
  undelimited := by
    intro c hc
    cases hd : isDelimiter c with
    | false => rfl
    | true =>
        have hmem : c.toLower ∈ Text.lower key := h ▸ List.mem_map_of_mem hc
        obtain ⟨d, hdmem, hdc⟩ := List.mem_map.1 hmem
        have hsame : d = c := by
          refine Text.eq_of_toLower_eq (.inl ?_) hdc
          simp only [isDelimiter, Bool.or_eq_true, beq_iff_eq] at hd
          rcases hd with rfl | rfl <;> decide
        rw [← hd, ← hsame, hk.undelimited d hdmem]
  opening := by
    intro c hc
    have hhead : ((key.dropWhile Text.isBlank).head?).map Char.toLower = some c.toLower := by
      rw [← List.head?_map, ← Option.map_some, ← hc, ← List.head?_map]
      have hdrop := congrArg (List.dropWhile Text.isBlank) h
      rw [Text.dropWhile_lower, Text.dropWhile_lower] at hdrop
      exact congrArg List.head? hdrop
    obtain ⟨d, hd, hdc⟩ := Option.map_eq_some_iff.1 hhead
    obtain ⟨hsemicolon, hhash, hbracket⟩ := hk.opening d hd
    refine ⟨?_, ?_, ?_⟩
    · rintro rfl
      exact hsemicolon (Text.eq_of_toLower_eq (by decide) hdc)
    · rintro rfl
      exact hhash (Text.eq_of_toLower_eq (by decide) hdc)
    · rintro rfl
      exact hbracket (Text.eq_of_toLower_eq (by decide) hdc)

/-- A line says the same in another layout. -/
theorem Respells.restates {line line' : List Char} (h : Respells line line') :
    (Line.ofText line).Restates (Line.ofText line') := by
  cases h with
  | margins before line after hb ha =>
      have htrim := (Text.trim_append_blank _ ha).trans (Text.trim_blank_append hb line)
      rw [Line.ofText_congr htrim]
      exact .same _
  | name margin before name after rest hm hb ha hrest =>
      rw [Line.ofText_header hm _ hrest, Line.ofText_header hm _ hrest, Text.trim_append_blank _ ha,
        Text.trim_blank_append hb]
      exact .same _
  | delimiter key before c c' after value hk hc hc' hb ha =>
      rw [Line.ofText_entry hk hc, Line.ofText_entry (hk.append hb) hc',
        Text.trim_append_blank _ hb, Text.trim_blank_append ha]
      exact .same _
  | letterCase key key' c value hk hc hcase hfield =>
      rw [Line.ofText_entry hk hc, Line.ofText_entry (hk.of_lower hcase) hc]
      have htrim : Text.lower (Text.trim key) = Text.lower (Text.trim key') := by
        rw [← Text.trim_lower, hcase, Text.trim_lower]
      have hempty : Text.trim key = [] ↔ Text.trim key' = [] := by
        rw [← List.length_eq_zero_iff, ← List.length_eq_zero_iff, ← Text.length_lower, htrim,
          Text.length_lower]
      simp only [hempty]
      split
      next => exact .same _
      next =>
        refine .entry ⟨foldKey_eq_iff.2 ?_, fun hstem => ?_⟩ _
        · rw [String.toList_ofList, String.toList_ofList, htrim]
        · rw [String.toList_ofList, String.toList_ofList]
          refine hfield ?_
          simpa [foldKey] using hstem

/-! ### Lines in their place -/

/-- The sections read so far are the same in other words. -/
def Draft.Restates (d e : Draft) : Prop := List.Forall₂ Section.Restates d.sections e.sections

namespace Draft.Restates

variable {d e : Draft}

theorem any_name (h : d.Restates e) (name : String) :
    (e.sections.any fun s => s.name = name) = d.sections.any fun s => s.name = name := by
  unfold Draft.Restates at h
  generalize d.sections = sections, e.sections = sections' at h
  induction h with
  | nil => rfl
  | cons hst _ ih => rw [List.any_cons, List.any_cons, ih, hst.name]

/-- A header is refused for its name only. -/
theorem add_header (h : d.Restates e) (name : String) (n n' : Nat) :
    Option.Rel Draft.Restates (d.add n (.header name)).toOption
      (e.add n' (.header name)).toOption := by
  have hany := h.any_name name
  unfold Draft.add
  dsimp only
  rw [hany]
  split
  · exact .none
  · exact .some (.cons ⟨rfl, .nil⟩ h)

/-- An entry is refused for its key only, however that is spelled. -/
theorem add_entry (h : d.Restates e) {key key' : String} (hkey : SameKey key key') (value : String)
    (n n' : Nat) :
    Option.Rel Draft.Restates (d.add n (.entry key value)).toOption
      (e.add n' (.entry key' value)).toOption := by
  obtain ⟨sections⟩ := d
  obtain ⟨sections'⟩ := e
  unfold Draft.Restates at h
  cases h with
  | nil => exact .none
  | @cons s t earlier earlier' hst hrest =>
      have hhas : t.has key' = s.has key := by
        unfold Section.has Section.entry?
        rw [← hkey.folded]
        exact hst.has key
      unfold Draft.add
      dsimp only
      rw [hhas]
      split
      · exact .none
      · refine .some (.cons ⟨hst.name, ?_⟩ hrest)
        exact Ascending.rel_insert (fun _ _ he => he.key) (hkey.restates_ofLine value n n')
          hst.entries

theorem add (h : d.Restates e) {l l' : Line} (hl : l.Restates l') (n n' : Nat) :
    Option.Rel Draft.Restates (d.add n l).toOption (e.add n' l').toOption := by
  cases hl with
  | entry hkey value => exact h.add_entry hkey value n n'
  | same l =>
      cases l with
      | skipped => exact .some h
      | bad how => exact .none
      | header name => exact h.add_header name n n'
      | entry key value => exact h.add_entry (.refl key) value n n'

end Draft.Restates

/-- What a run over lines gives, if none is refused. -/
def scan? (d : Draft) (n : Nat) (ls : List (List Char)) : Option Draft :=
  match scan d n ls with
  | (d, none) => some d
  | (_, some _) => none

theorem scan?_cons (d : Draft) (n : Nat) (l : List Char) (ls : List (List Char)) :
    scan? d n (l :: ls) =
      (d.add n (Line.ofText l)).toOption.bind fun d => scan? d (n + 1) ls := by
  unfold scan?
  rw [scan]
  cases d.add n (Line.ofText l) <;> rfl

/-- The lines are the same in other words, but for further ones that are left out. -/
inductive LinesRestate : List (List Char) → List (List Char) → Prop
  | nil : LinesRestate [] []
  | cons {l l' : List Char} {ls ls' : List (List Char)}
      (h : (Line.ofText l).Restates (Line.ofText l')) (hs : LinesRestate ls ls') :
      LinesRestate (l :: ls) (l' :: ls')
  | skip {l' : List Char} {ls ls' : List (List Char)} (h : Line.ofText l' = .skipped)
      (hs : LinesRestate ls ls') : LinesRestate ls (l' :: ls')

theorem LinesRestate.refl (ls : List (List Char)) : LinesRestate ls ls := by
  induction ls with
  | nil => exact .nil
  | cons l ls ih => exact .cons (.same _) ih

theorem LinesRestate.append_left {ls ls' : List (List Char)} (h : LinesRestate ls ls')
    (above : List (List Char)) : LinesRestate (above ++ ls) (above ++ ls') := by
  induction above with
  | nil => exact h
  | cons l above ih => exact .cons (.same _) ih

theorem Relays.linesRestate {ls ls' : List (List Char)} (h : Relays ls ls') :
    LinesRestate ls ls' := by
  cases h with
  | insert above line below hidle =>
      exact (LinesRestate.skip (Line.ofText_idle hidle) (.refl _)).append_left above
  | respell above below hl => exact (LinesRestate.cons hl.restates (.refl _)).append_left above

theorem LinesRestate.scan? {ls ls' : List (List Char)} (h : LinesRestate ls ls') {d e : Draft}
    (hde : d.Restates e) (n n' : Nat) :
    Option.Rel Draft.Restates (scan? d n ls) (scan? e n' ls') := by
  induction h generalizing d e n n' with
  | nil => exact .some hde
  | @cons l l' ls ls' hl _ ih =>
      have hadd := hde.add hl n n'
      rw [scan?_cons, scan?_cons]
      generalize (d.add n (Line.ofText l)).toOption = o, (e.add n' (Line.ofText l')).toOption = o'
        at hadd
      cases hadd with
      | none => exact .none
      | some hde => exact ih hde _ _
  | skip hl _ ih =>
      rw [scan?_cons e, hl]
      exact ih hde n (n' + 1)

theorem result?_ofText (text : String) :
    (ofText text).result? =
      (scan? ⟨[]⟩ 1 (lines text)).bind fun d => if d.sections = [] then none else some d.sheet := by
  unfold ofText scan?
  cases hscan : scan ⟨[]⟩ 1 (lines text) with
  | mk d fault =>
  cases fault with
  | some f => rfl
  | none =>
      dsimp only [Option.bind_some]
      unfold Report.result?
      dsimp only
      split <;> rfl

/-- Texts with the same lines in other words are the same data sheets in other words. -/
theorem LinesRestate.ofText {text text' : String} (h : LinesRestate (lines text) (lines text')) :
    Option.Rel Sheet.Restates (Sheet.ofText text).result? (Sheet.ofText text').result? := by
  have hscan := h.scan? (d := ⟨[]⟩) (e := ⟨[]⟩) .nil 1 1
  rw [result?_ofText, result?_ofText]
  generalize Sheet.scan? ⟨[]⟩ 1 (lines text) = o, Sheet.scan? ⟨[]⟩ 1 (lines text') = o' at hscan
  cases hscan with
  | none => exact .none
  | @some d e hde =>
      obtain ⟨sections⟩ := d
      obtain ⟨sections'⟩ := e
      unfold Draft.Restates at hde
      cases hde with
      | nil => exact .none
      | cons hst hrest => exact .some (List.rel_reverse (.cons hst hrest))

end Sheet

theorem Dictionary.result?_ofText (text : String) (node : Option UInt8) :
    (ofText text node).result? =
      (Sheet.ofText text).result?.bind fun sheet => (sheet.dictionary node).result? := by
  unfold ofText
  simp only [Report.result?_bind]
  refine congrArg ((Sheet.ofText text).result?.bind ·) (funext fun sheet => ?_)
  cases (sheet.dictionary node).result? <;> rfl

/-- Texts with the same lines in other words give the same dictionary. -/
theorem Sheet.LinesRestate.result?_ofText {text text' : String}
    (h : LinesRestate (lines text) (lines text')) (node : Option UInt8) :
    (Dictionary.ofText text' node).result? = (Dictionary.ofText text node).result? := by
  have hsheets := h.ofText
  rw [Dictionary.result?_ofText, Dictionary.result?_ofText]
  generalize (Sheet.ofText text).result? = o, (Sheet.ofText text').result? = o' at hsheets
  cases hsheets with
  | none => rfl
  | some hST => exact hST.result?_dictionary node

/-! ### Marks of byte order -/

namespace Sheet

/-- The first of the lines opens with a mark of byte order. -/
def Marked (ls : List (List Char)) : Prop := ls.head?.bind List.head? = some byteOrderMark

theorem marked_splitOn_iff {s : List Char} :
    Marked (s.splitOn '\n') ↔ s.head? = some byteOrderMark := by
  unfold Marked
  cases s with
  | nil => simp
  | cons c s =>
      rw [List.splitOn_eq_splitOnP, List.splitOnP_cons_eq_if_modifyHead]
      split
      next hc =>
        rw [beq_iff_eq] at hc
        subst hc
        simp [byteOrderMark]
      next hc =>
        obtain ⟨l, ls, hls⟩ := List.exists_cons_of_ne_nil (List.splitOnP_ne_nil (· == '\n') s)
        rw [hls]
        rfl

/-- What opens with a mark of byte order does not open with blanks. -/
theorem head?_of_blank_append {b s : List Char} (hb : Text.Blank b)
    (h : (b ++ s).head? = some byteOrderMark) : s.head? = some byteOrderMark := by
  cases b with
  | nil => exact h
  | cons c b =>
      have hc : Text.isBlank byteOrderMark := by
        cases h
        exact hb _ List.mem_cons_self
      exact absurd hc (by decide)

/-- A line does not come to open with a mark of byte order by another layout. -/
theorem Respells.head? {line line' : List Char} (h : Respells line line')
    (hmark : line'.head? = some byteOrderMark) : line.head? = some byteOrderMark := by
  cases h with
  | margins before line after hb ha =>
      rw [List.append_assoc] at hmark
      have hline := head?_of_blank_append hb hmark
      cases line with
      | nil =>
          rw [List.nil_append, ← List.append_nil after] at hline
          cases head?_of_blank_append ha hline
      | cons c line => exact hline
  | name margin before name after rest hm hb ha hrest => cases head?_of_blank_append hm hmark
  | delimiter key before c c' after value hk hc hc' hb ha =>
      cases key with
      | cons k key => exact hmark
      | nil =>
          have hhead := head?_of_blank_append hb hmark
          cases hhead
          exact absurd hc' (by decide)
  | letterCase key key' c value hk hc hcase hfield =>
      cases key with
      | nil =>
          cases key' with
          | nil => exact hmark
          | cons k' key' => cases hcase
      | cons k key =>
          cases key' with
          | nil => cases hcase
          | cons k' key' =>
              cases hmark
              have hletter := (List.cons.inj hcase).1
              rw [Text.eq_of_toLower_eq (by decide) hletter]
              rfl

/-- A text does not come to open with a mark of byte order by another layout. -/
theorem Relays.marked {ls ls' : List (List Char)} (h : Relays ls ls') (hmark : Marked ls') :
    Marked ls := by
  cases h with
  | insert above line below hidle =>
      cases above with
      | cons l above => exact hmark
      | nil =>
          -- a mark is neither blank nor does it open a comment
          cases line with
          | nil => cases hmark
          | cons c line =>
              cases hmark
              rcases hidle byteOrderMark rfl with h | h <;> exact absurd h (by decide)
  | respell above below hl =>
      cases above with
      | cons l above => exact hmark
      | nil => exact hl.head? hmark

theorem lines_of_unmarked {text : String} (h : text.toList.head? ≠ some byteOrderMark) :
    lines text = text.toList.splitOn '\n' := by
  unfold lines
  cases htext : text.toList with
  | nil => rfl
  | cons c s =>
      rw [htext] at h
      have hmark : withoutMark (c :: s) = c :: s := if_neg fun hc => h (congrArg some hc)
      rw [hmark]

theorem lines_marked (text : String) : lines ("\uFEFF" ++ text) = text.toList.splitOn '\n' := by
  unfold lines
  rw [String.toList_append]
  rfl

end Sheet

/-- **The layout of a text does not matter.**  A text without a mark of byte order, with lines added
and laid out otherwise any number of times, gives the same dictionary as before, or gives none as
before; and so it does with a mark of byte order in front. -/
theorem layout_irrelevant {text text' : String}
    (hmark : text.toList.head? ≠ some Sheet.byteOrderMark)
    (h : Relation.ReflTransGen Sheet.Relaid text text') (node : Option UInt8) :
    (Dictionary.ofText text' node).result? = (Dictionary.ofText text node).result? ∧
      (Dictionary.ofText ("\uFEFF" ++ text') node).result? =
        (Dictionary.ofText text node).result? := by
  have hboth : text'.toList.head? ≠ some Sheet.byteOrderMark ∧
      (Dictionary.ofText text' node).result? = (Dictionary.ofText text node).result? := by
    induction h with
    | refl => exact ⟨hmark, rfl⟩
    | @tail text₁ text₂ _ hstep ih =>
        obtain ⟨hunmarked, hresult⟩ := ih
        have hunmarked' : text₂.toList.head? ≠ some Sheet.byteOrderMark := fun hm =>
          hunmarked (Sheet.marked_splitOn_iff.1 (hstep.marked (Sheet.marked_splitOn_iff.2 hm)))
        have hlines := hstep.linesRestate
        rw [← Sheet.lines_of_unmarked hunmarked, ← Sheet.lines_of_unmarked hunmarked'] at hlines
        exact ⟨hunmarked', (hlines.result?_ofText node).trans hresult⟩
  obtain ⟨hunmarked, hresult⟩ := hboth
  have hlines : Sheet.LinesRestate (Sheet.lines text') (Sheet.lines ("\uFEFF" ++ text')) := by
    rw [Sheet.lines_marked, Sheet.lines_of_unmarked hunmarked]
    exact .refl _
  exact ⟨hresult, (hlines.result?_ofText node).trans hresult⟩

/-- A text with blanks in the header, a comment below it, a carriage return, a key in capitals and
the other delimiter. -/
theorem layout_irrelevant_comment :
    Relation.ReflTransGen Sheet.Relaid "[2000]\nDataType=5"
      "[ 2000 ]\r\n  # size\nDATATYPE : 5" ∧
    ∃ d, (Dictionary.ofText "[2000]\nDataType=5" none).result? = some d ∧
      (Dictionary.ofText "[ 2000 ]\r\n  # size\nDATATYPE : 5" none).result? = some d ∧
      (Dictionary.ofText ("\uFEFF" ++ "[ 2000 ]\r\n  # size\nDATATYPE : 5") none).result? =
        some d := by
  have hname : Sheet.Relaid "[2000]\nDataType=5" "[ 2000 ]\nDataType=5" :=
    .respell [] ["DataType=5".toList] (.name [] [' '] "2000".toList [' '] [] (by decide)
      (by decide) (by decide) (by decide))
  have hcomment : Sheet.Relaid "[ 2000 ]\nDataType=5" "[ 2000 ]\n  # size\nDataType=5" :=
    .insert ["[ 2000 ]".toList] "  # size".toList ["DataType=5".toList]
      (by decide)
  have hreturn : Sheet.Relaid "[ 2000 ]\n  # size\nDataType=5"
      "[ 2000 ]\r\n  # size\nDataType=5" :=
    .respell [] ["  # size".toList, "DataType=5".toList]
      (.margins [] "[ 2000 ]".toList ['\r'] (by decide) (by decide))
  have hcase : Sheet.Relaid "[ 2000 ]\r\n  # size\nDataType=5"
      "[ 2000 ]\r\n  # size\nDATATYPE=5" :=
    .respell ["[ 2000 ]\r".toList, "  # size".toList] []
      (.letterCase "DataType".toList "DATATYPE".toList '=' ['5'] (by decide) (by decide)
        (by decide) (by decide))
  have hdelimiter : Sheet.Relaid "[ 2000 ]\r\n  # size\nDATATYPE=5"
      "[ 2000 ]\r\n  # size\nDATATYPE : 5" :=
    .respell ["[ 2000 ]\r".toList, "  # size".toList] []
      (.delimiter "DATATYPE".toList [' '] '=' ':' [' '] ['5'] (by decide) (by decide)
        (by decide) (by decide) (by decide))
  have hsteps := ((((Relation.ReflTransGen.single hname).tail hcomment).tail hreturn).tail
    hcase).tail hdelimiter
  obtain ⟨d, hd⟩ := Option.isSome_iff_exists.1 (show
    (Dictionary.ofText "[2000]\nDataType=5" none).result?.isSome by decide +kernel)
  obtain ⟨hrelaid, hmarked⟩ := layout_irrelevant (by decide) hsteps none
  exact ⟨hsteps, d, hd, hrelaid.trans hd, hmarked.trans hd⟩

end DataSheet
