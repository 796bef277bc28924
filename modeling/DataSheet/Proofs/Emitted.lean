/-
**Emitted text is faithful.**

The lines of an emitted text are those from which it was made, since none of them can break.  They
declare each variable once and refer to it once, in the same order, and they tell every object of
the dictionary, with what is declared for each of its variables.

Main definitions:

* `Dictionary.Told` — what the text of the declarations of a dictionary tells.

Main results:

* `Dictionary.decode_of_render` — **a rendered text is read back**;
* `Dictionary.told_of_render` — what a rendered text tells;
* `emitted_text_is_faithful` — **an emitted text determines the outline of its dictionary**.
-/

import DataSheet.Proofs.Distinct
import DataSheet.Proofs.OneLine

set_option relaxedAutoImplicit false
set_option autoImplicit false

namespace DataSheet

/-! ### Constants -/

/-- The constants of a dictionary, if all defaults can be written. -/
def Dictionary.constants (d : Dictionary) (c : Settings) : Except Fault (List Constant) :=
  (d.declarations c).mapM Declaration.constant

theorem Declaration.mapM_lines (ds : List Declaration) :
    ds.mapM Declaration.lines = (ds.mapM Declaration.constant).map (List.map Constant.lines) := by
  induction ds with
  | nil => rfl
  | cons d ds ih =>
      rw [List.mapM_cons, List.mapM_cons, ih, lines_eq]
      cases d.constant with
      | error f => rfl
      | ok k => cases ds.mapM Declaration.constant <;> rfl

/-- What a rendered text is made of. -/
theorem Dictionary.render_eq_ok_iff {d : Dictionary} {c : Settings} {text : String} :
    (d.render c).outcome = .ok text ↔
      c.check = .ok () ∧ (d.project c).outcome = .ok () ∧ ∃ ks, d.constants c = .ok ks ∧
        text = textOfLines (c.preamble ++ ks.flatMap Constant.lines ++ d.builder c) := by
  unfold render constants
  simp only [Report.outcome_bind_eq_ok_iff, Report.outcome_ofExcept, Declaration.mapM_lines,
    Report.map_eq_ok_iff, Report.outcome_pure, Except.ok.injEq]
  constructor
  · rintro ⟨_, hcheck, _, hproject, _, ⟨ks, hks, rfl⟩, rfl⟩
    exact ⟨hcheck, hproject, ks, hks, by rw [List.flatMap_def]⟩
  · rintro ⟨hcheck, hproject, ks, hks, rfl⟩
    exact ⟨(), hcheck, (), hproject, _, ⟨ks, hks, rfl⟩, by rw [List.flatMap_def]⟩

theorem Declaration.identifier_constant {d : Declaration} {k : Constant}
    (h : d.constant = .ok k) : k.identifier = d.identifier := by
  obtain ⟨literal, -, rfl⟩ := Report.map_eq_ok_iff.1 h
  rfl

/-- The constants have the identifiers of the declarations, in the same order. -/
theorem map_identifier_constants {ds : List Declaration} {ks : List Constant}
    (h : ds.mapM Declaration.constant = .ok ks) :
    ks.map Constant.identifier = ds.map Declaration.identifier :=
  Report.map_eq_of_mapM h fun _ _ => Declaration.identifier_constant

/-- Where identifiers are distinct, a constant is found by its identifier. -/
theorem Constant.find?_identifier {ks : List Constant}
    (h : (ks.map Constant.identifier).Nodup) {k : Constant} (hk : k ∈ ks) :
    (ks.find? fun k' => k'.identifier = k.identifier) = some k := by
  cases hfind : ks.find? (fun k' => k'.identifier = k.identifier) with
  | none =>
      have hne := List.find?_eq_none.1 hfind k hk
      simp at hne
  | some k' =>
      have hname : k'.identifier = k.identifier := by simpa using List.find?_some hfind
      rw [List.inj_on_of_nodup_map h (List.mem_of_find?_eq_some hfind) hk hname]

/-! ### Lines of an emitted text -/

theorem Settings.oneLine_preamble {c : Settings} (h : c.check = .ok ()) :
    ∀ l ∈ c.preamble, OneLine l.toList := by
  have hpath : OneLine c.modulePath.toList := by
    unfold check at h
    split at h
    · cases h
    · split at h
      · cases h
      next hpath => exact Identifier.oneLine_of_isPath (by simpa using hpath)
  intro l hl
  simp only [preamble, List.mem_cons, List.not_mem_nil, or_false] at hl
  rcases hl with rfl | rfl | rfl | rfl
  · decide
  · decide
  · simp only [String.toList_append]
    exact (OneLine.append (by decide) hpath).append (by decide)
  · decide

theorem Constant.oneLine_lines {k : Constant} (hi : OneLine k.identifier.toList)
    (hl : OneLine k.literal.toList) : ∀ l ∈ k.lines, OneLine l.toList := by
  intro l hmem
  simp only [lines, List.mem_cons, List.not_mem_nil, or_false] at hmem
  rcases hmem with rfl | rfl
  · simp only [String.toList_append]
    exact (OneLine.append (by decide) hi).append (by decide)
  · simp only [String.toList_append, indexText, subindexText]
    have hindex := oneLine_upperHex 4 k.index.toNat
    have hsubindex := oneLine_upperHex 2 k.subindex.toNat
    have hstart : OneLine ("    Variable::new(".toList ++
        ("0x".toList ++ (Text.upperHex 4 k.index.toNat).toList)) :=
      OneLine.append (by decide) (OneLine.append (by decide) hindex)
    exact ((((hstart.append (by decide)).append hsubindex).append (by decide)).append hl).append
      (by decide)

theorem oneLine_memberLines {is : List String} (h : ∀ i ∈ is, OneLine i.toList) :
    ∀ l ∈ memberLines is, OneLine l.toList := by
  intro l hl
  unfold memberLines at hl
  split at hl
  · rw [List.mem_singleton.1 hl]
    decide
  · rcases List.mem_cons.1 hl with rfl | hl
    · decide
    · rcases List.mem_append.1 hl with hl | hl
      · obtain ⟨i, hi, rfl⟩ := List.mem_map.1 hl
        simp only [String.toList_append]
        exact (OneLine.append (by decide) (h i hi)).append (by decide)
      · rw [List.mem_singleton.1 hl]
        decide

theorem Outline.oneLine_lines {r : Outline String} (h : ∀ i ∈ r.items, OneLine i.toList) :
    ∀ l ∈ r.lines, OneLine l.toList := by
  intro l hl
  cases r with
  | plain i =>
      rw [List.mem_singleton.1 hl]
      simp only [String.toList_append]
      exact (OneLine.append (by decide) (h i List.mem_cons_self)).append (by decide)
  | group kind index is =>
      simp only [lines, List.mem_append, List.mem_cons, List.not_mem_nil, or_false] at hl
      rcases hl with ((rfl | rfl) | hl) | rfl
      · cases kind <;> decide
      · simp only [String.toList_append, indexText]
        exact (OneLine.append (by decide)
          (OneLine.append (by decide) (oneLine_upperHex 4 index.toNat))).append (by decide)
      · exact oneLine_memberLines h l hl
      · decide

/-- The objects of a dictionary, with the identifier of each of their variables. -/
def Dictionary.references (d : Dictionary) (c : Settings) : List (Outline String) :=
  d.objects.map fun o => (o.outline c).map Declaration.identifier

theorem Dictionary.builder_eq (d : Dictionary) (c : Settings) :
    d.builder c =
      ["", "pub fn " ++ c.builderName ++ "() -> ObjectDictionary \x7b",
        "    let mut od = ObjectDictionary::default();"] ++
        (d.references c).flatMap Outline.lines ++ ["    od", "\x7d"] := by
  have hassembly : d.objects.flatMap (Object.assembly c) =
      d.objects.flatMap fun o => ((o.outline c).map Declaration.identifier).lines :=
    List.flatMap_congr fun o _ => Object.assembly_eq c o
  unfold builder references
  rw [List.flatMap_map, hassembly]

/-- What is declared for the variables of an object, in order. -/
theorem Object.declarations_eq (c : Settings) (o : Object) :
    o.declarations c = (o.outline c).items := by
  cases o <;> rfl

theorem Outline.items_map {α β : Type} (f : α → β) (r : Outline α) :
    (r.map f).items = r.items.map f := by
  cases r <;> rfl

/-- The identifiers of a dictionary's variables, object by object. -/
theorem Dictionary.items_references (d : Dictionary) (c : Settings) :
    (d.references c).flatMap Outline.items =
      (d.declarations c).map Declaration.identifier := by
  unfold references declarations
  rw [List.flatMap_map, List.map_flatMap]
  refine List.flatMap_congr fun o _ => ?_
  rw [Outline.items_map, Object.declarations_eq]

theorem Dictionary.oneLine_identifier {d : Dictionary} {c : Settings} :
    ∀ x ∈ d.declarations c, OneLine x.identifier.toList := by
  intro x hx
  obtain ⟨o, -, hx⟩ := List.mem_flatMap.1 hx
  cases o with
  | plain v =>
      rw [List.mem_singleton.1 hx]
      exact Identifier.oneLine_ofName _ _
  | group g =>
      obtain ⟨m, -, rfl⟩ := List.mem_map.1 hx
      exact Identifier.oneLine_ofName _ _

/-- All lines of an emitted text stay lines. -/
theorem Dictionary.oneLine_lines {d : Dictionary} {c : Settings} {ks : List Constant}
    (hcheck : c.check = .ok ()) (hks : d.constants c = .ok ks) :
    ∀ l ∈ c.preamble ++ ks.flatMap Constant.lines ++ d.builder c, OneLine l.toList := by
  have hbuilder : OneLine c.builderName.toList := by
    unfold Settings.check at hcheck
    split at hcheck
    · cases hcheck
    next hfree => exact Identifier.oneLine_of_isFree (by simpa using hfree)
  intro l hl
  rw [builder_eq] at hl
  simp only [List.mem_append] at hl
  rcases hl with (hl | hl) | (hl | hl) | hl
  · exact Settings.oneLine_preamble hcheck l hl
  · obtain ⟨k, hk, hl⟩ := List.mem_flatMap.1 hl
    -- each constant comes from a declaration, whose identifier and literal stay on one line
    have hmem : Except.ok k ∈ (d.declarations c).map Declaration.constant := by
      rw [Report.mapM_eq_ok_iff.1 hks]
      exact List.mem_map_of_mem hk
    obtain ⟨x, hx, hxk⟩ := List.mem_map.1 hmem
    obtain ⟨literal, hliteral, rfl⟩ := Report.map_eq_ok_iff.1 hxk
    exact Constant.oneLine_lines (oneLine_identifier x hx) (defaultLiteral_oneLine hliteral) l hl
  · simp only [List.mem_cons, List.not_mem_nil, or_false] at hl
    rcases hl with rfl | rfl | rfl
    · decide
    · simp only [String.toList_append]
      exact (OneLine.append (by decide) hbuilder).append (by decide)
    · decide
  · obtain ⟨r, hr, hl⟩ := List.mem_flatMap.1 hl
    refine Outline.oneLine_lines (fun i hi => ?_) l hl
    have hmem : i ∈ (d.references c).flatMap Outline.items := List.mem_flatMap.2 ⟨r, hr, hi⟩
    rw [items_references] at hmem
    obtain ⟨x, hx, rfl⟩ := List.mem_map.1 hmem
    exact oneLine_identifier x hx
  · simp only [List.mem_cons, List.not_mem_nil, or_false] at hl
    rcases hl with rfl | rfl <;> decide

/-! ### Identifiers that a text declares and refers to -/

namespace Transcript

theorem filterMap_declaration?_constants (ks : List Constant) :
    ((ks.flatMap Constant.lines).map String.toList).filterMap declaration? =
      ks.map Constant.identifier := by
  induction ks with
  | nil => rfl
  | cons k ks ih =>
      have hfirst : declaration? ("pub const " ++ k.identifier ++ ": Variable =").toList =
          some k.identifier := by
        rw [declaration?, between?_enclosed, Option.map_some, String.ofList_toList]
      have hsecond : declaration? ("    Variable::new(" ++ indexText k.index ++ ", 0x" ++
          subindexText k.subindex ++ ", " ++ k.literal ++ ");").toList = none := by
        simp only [String.toList_append]
        rfl
      rw [List.flatMap_cons, List.map_append, List.filterMap_append, ih]
      change List.filterMap declaration? [String.toList _, String.toList _] ++ _ = _
      rw [List.filterMap_cons_some hfirst, List.filterMap_cons_none hsecond]
      rfl

theorem filterMap_reference?_constants (ks : List Constant) :
    ((ks.flatMap Constant.lines).map String.toList).filterMap reference? = [] := by
  induction ks with
  | nil => rfl
  | cons k ks ih =>
      rw [List.flatMap_cons, List.map_append, List.filterMap_append, ih]
      unfold Constant.lines
      simp only [List.map_cons, List.map_nil, String.toList_append]
      rfl

/-- Lines that assemble objects are indented. -/
theorem indented_of_mem_lines {r : Outline String} :
    ∀ l ∈ r.lines, ∃ rest, l.toList = ' ' :: rest := by
  intro l hl
  cases r with
  | plain i =>
      rw [List.mem_singleton.1 hl]
      simp only [String.toList_append]
      exact ⟨_, rfl⟩
  | group kind index is =>
      simp only [Outline.lines, List.mem_append, List.mem_cons, List.not_mem_nil, or_false] at hl
      rcases hl with ((rfl | rfl) | hl) | rfl
      · cases kind <;> exact ⟨_, rfl⟩
      · simp only [String.toList_append]
        exact ⟨_, rfl⟩
      · unfold memberLines at hl
        split at hl
        · rw [List.mem_singleton.1 hl]
          exact ⟨_, rfl⟩
        · simp only [List.mem_append, List.mem_cons, List.mem_map, List.not_mem_nil,
            or_false] at hl
          rcases hl with (rfl | ⟨i, -, rfl⟩) | rfl
          · exact ⟨_, rfl⟩
          · simp only [String.toList_append]
            exact ⟨_, rfl⟩
          · exact ⟨_, rfl⟩
      · exact ⟨_, rfl⟩

theorem filterMap_declaration?_references (rs : List (Outline String)) :
    ((rs.flatMap Outline.lines).map String.toList).filterMap declaration? = [] := by
  rw [List.filterMap_eq_nil_iff]
  intro line hline
  obtain ⟨l, hl, rfl⟩ := List.mem_map.1 hline
  obtain ⟨r, -, hl⟩ := List.mem_flatMap.1 hl
  obtain ⟨rest, hrest⟩ := indented_of_mem_lines l hl
  rw [hrest]
  rfl

theorem reference?_member (i : String) :
    reference? ("            " ++ i ++ ",").toList = some i := by
  have hvariable : between? "    od.add_variable(" ");"
      ("            " ++ i ++ ",").toList = none := by
    rw [toList_enclosed]
    rfl
  rw [reference?, hvariable, between?_enclosed, Option.none_or, Option.map_some,
    String.ofList_toList]

theorem filterMap_reference?_memberLines (is : List String) :
    ((memberLines is).map String.toList).filterMap reference? = is := by
  unfold memberLines
  split
  next h =>
    subst h
    rfl
  · have hmembers : ((is.map fun i => "            " ++ i ++ ",").map String.toList).filterMap
        reference? = is := by
      rw [List.map_map, List.filterMap_map]
      have hreference : reference? ∘ (String.toList ∘ fun i => "            " ++ i ++ ",") = some :=
        funext reference?_member
      rw [hreference, List.filterMap_some]
    rw [List.map_append, List.filterMap_append, List.map_cons]
    change List.filterMap _ (List.map _ (is.map _)) ++ [] = is
    rw [List.append_nil]
    exact hmembers

/-- The lines that assemble an object refer to its variables, each once and in order. -/
theorem filterMap_reference?_lines (r : Outline String) :
    (r.lines.map String.toList).filterMap reference? = r.items := by
  cases r with
  | plain i =>
      have hreference : reference? ("    od.add_variable(" ++ i ++ ");").toList = some i := by
        rw [reference?, between?_enclosed, Option.some_or, Option.map_some, String.ofList_toList]
      change List.filterMap reference? [String.toList _] = [i]
      rw [List.filterMap_cons_some hreference]
      rfl
  | group kind index is =>
      have hopen : reference?
          ("    od." ++ kind.adder ++ "(" ++ kind.typeName ++ " \x7b").toList = none := by
        cases kind <;> rfl
      have hindex : reference? ("        index: " ++ indexText index ++ ",").toList = none := by
        simp only [String.toList_append]
        rfl
      unfold Outline.lines
      rw [List.map_append, List.map_append, List.filterMap_append, List.filterMap_append,
        filterMap_reference?_memberLines]
      change List.filterMap reference? [String.toList _, String.toList _] ++ is ++ [] = is
      rw [List.filterMap_cons_none hopen, List.filterMap_cons_none hindex]
      exact List.append_nil is

theorem filterMap_reference?_references (rs : List (Outline String)) :
    ((rs.flatMap Outline.lines).map String.toList).filterMap reference? =
      rs.flatMap Outline.items := by
  induction rs with
  | nil => rfl
  | cons r rs ih =>
      rw [List.flatMap_cons, List.map_append, List.filterMap_append, filterMap_reference?_lines, ih,
        List.flatMap_cons]

end Transcript

/-! ### What a text tells -/

/-- Two runs over a list give the same if they do for each item. -/
theorem exists_mapM {α β γ ε : Type} {f : α → Except ε β} {g : γ → Option β} {h : α → γ}
    {l : List α} (hall : ∀ a ∈ l, ∃ b, f a = .ok b ∧ g (h a) = some b) :
    ∃ bs, l.mapM f = .ok bs ∧ (l.map h).mapM g = some bs := by
  induction l with
  | nil => exact ⟨[], rfl, rfl⟩
  | cons a l ih =>
      obtain ⟨b, hf, hg⟩ := hall a List.mem_cons_self
      obtain ⟨bs, hfs, hgs⟩ := ih fun a' ha' => hall a' (List.mem_cons_of_mem a ha')
      refine ⟨b :: bs, ?_, ?_⟩
      · rw [List.mapM_cons, hf, hfs]
        rfl
      · rw [List.map_cons, List.mapM_cons, hg, hgs]
        rfl

theorem Outline.exists_mapM {α β γ ε : Type} {f : α → Except ε β} {g : γ → Option β} {h : α → γ}
    {r : Outline α} (hall : ∀ a ∈ r.items, ∃ b, f a = .ok b ∧ g (h a) = some b) :
    ∃ q, r.mapM f = .ok q ∧ (r.map h).mapM g = some q := by
  cases r with
  | plain a =>
      obtain ⟨b, hf, hg⟩ := hall a List.mem_cons_self
      refine ⟨.plain b, ?_, ?_⟩
      · rw [Outline.mapM, hf]
        rfl
      · rw [Outline.map, Outline.mapM, hg]
        rfl
  | group kind index as =>
      have hall : ∀ a ∈ as, ∃ b, f a = .ok b ∧ g (h a) = some b := hall
      obtain ⟨bs, hf, hg⟩ := DataSheet.exists_mapM hall
      refine ⟨.group kind index bs, ?_, ?_⟩
      · rw [Outline.mapM, hf]
        rfl
      · rw [Outline.map, Outline.mapM, hg]
        rfl

namespace Dictionary

variable {d : Dictionary} {c : Settings} {ks : List Constant} {text : String}

/-- Looking up the identifiers among the constants gives the outlines of all objects. -/
theorem exists_outline (hks : d.constants c = .ok ks)
    (hnodup : ((d.declarations c).map Declaration.identifier).Nodup) :
    ∃ os, d.outline c = .ok os ∧
      ((d.references c).mapM fun r => r.mapM fun i => ks.find? fun k => k.identifier = i) =
        some os := by
  have hnames : (ks.map Constant.identifier).Nodup := by
    rw [map_identifier_constants hks]
    exact hnodup
  -- object by object, and in each variable by variable
  refine DataSheet.exists_mapM fun o ho => Outline.exists_mapM fun x hx => ?_
  have hmem : x ∈ d.declarations c :=
    List.mem_flatMap.2 ⟨o, ho, Object.declarations_eq c o ▸ hx⟩
  have hconstant : x.constant ∈ ks.map Except.ok := by
    rw [← Report.mapM_eq_ok_iff.1 hks]
    exact List.mem_map_of_mem hmem
  obtain ⟨k, hk, hxk⟩ := List.mem_map.1 hconstant
  refine ⟨k, hxk.symm, ?_⟩
  rw [← Declaration.identifier_constant hxk.symm]
  exact Constant.find?_identifier hnames hk

/-- The lines of a rendered text. -/
theorem linesOf_render (hcheck : c.check = .ok ()) (hks : d.constants c = .ok ks) :
    Transcript.linesOf (textOfLines (c.preamble ++ ks.flatMap Constant.lines ++ d.builder c)) =
      c.preamble.map String.toList ++ ((ks.flatMap Constant.lines).map String.toList ++
        [] :: ("pub fn " ++ c.builderName ++ "() -> ObjectDictionary \x7b").toList ::
          "    let mut od = ObjectDictionary::default();".toList ::
            (((d.references c).flatMap Outline.lines).map String.toList ++
              "    od".toList :: ["\x7d".toList, []])) := by
  rw [Transcript.linesOf_textOfLines (oneLine_lines hcheck hks), builder_eq]
  simp only [List.map_append, List.map_cons, List.map_nil, List.append_assoc, List.cons_append,
    List.nil_append]
  rfl

/-- **A rendered text is read back**, and gives the outline of its dictionary. -/
theorem decode_of_render (h : (d.render c).outcome = .ok text) :
    ∃ os, d.outline c = .ok os ∧ Transcript.decode text = some os := by
  obtain ⟨hcheck, hproject, ks, hks, rfl⟩ := render_eq_ok_iff.1 h
  obtain ⟨os, houtline, hlookup⟩ := exists_outline hks (outcome_project_eq_ok_iff.1 hproject)
  refine ⟨os, houtline, ?_⟩
  have hpreamble : ∀ rest, (c.preamble.map String.toList ++ rest).drop 4 = rest := fun _ => rfl
  have hheader : ∀ (first second : List Char) (rest), (first :: second :: rest).drop 2 = rest :=
    fun _ _ _ => rfl
  unfold Transcript.decode
  rw [linesOf_render hcheck hks, hpreamble, Transcript.constants?_lines]
  change Transcript.references? _ (List.drop 2 _) >>= _ = _
  rw [hheader, Transcript.references?_lines]
  exact hlookup

/-- A reading of lines that passes over the fixed lines of a rendered text reads the lines of its
constants, and then those that assemble its objects. -/
theorem filterMap_linesOf_render {read : List Char → Option String} (hcheck : c.check = .ok ())
    (hks : d.constants c = .ok ks) (hpreamble : (c.preamble.map String.toList).filterMap read = [])
    (hname : read ("pub fn " ++ c.builderName ++ "() -> ObjectDictionary \x7b").toList = none)
    (hfixed : ∀ l ∈ ["", "    let mut od = ObjectDictionary::default();", "    od", "\x7d"],
      read l.toList = none) :
    (Transcript.linesOf (textOfLines
        (c.preamble ++ ks.flatMap Constant.lines ++ d.builder c))).filterMap read =
      ((ks.flatMap Constant.lines).map String.toList).filterMap read ++
        (((d.references c).flatMap Outline.lines).map String.toList).filterMap read := by
  simp only [List.forall_mem_cons] at hfixed
  obtain ⟨hblank, hstart, hresult, hend, -⟩ := hfixed
  have hblank : read [] = none := hblank
  have hclose : ["    od".toList, "\x7d".toList, []].filterMap read = [] := by
    rw [List.filterMap_cons_none hresult, List.filterMap_cons_none hend,
      List.filterMap_cons_none hblank]
    rfl
  rw [linesOf_render hcheck hks, List.filterMap_append, List.filterMap_append, hpreamble,
    List.filterMap_cons_none hblank, List.filterMap_cons_none hname,
    List.filterMap_cons_none hstart, List.filterMap_append, hclose, List.append_nil]
  rfl

theorem declared_of_render (h : (d.render c).outcome = .ok text) :
    Transcript.declared text = (d.declarations c).map Declaration.identifier := by
  obtain ⟨hcheck, -, ks, hks, rfl⟩ := render_eq_ok_iff.1 h
  unfold Transcript.declared
  rw [filterMap_linesOf_render hcheck hks, Transcript.filterMap_declaration?_constants,
    Transcript.filterMap_declaration?_references, List.append_nil, map_identifier_constants hks]
  · simp only [Settings.preamble, List.map_cons, List.map_nil, String.toList_append]
    rfl
  · simp only [String.toList_append]
    rfl
  · decide

theorem referenced_of_render (h : (d.render c).outcome = .ok text) :
    Transcript.referenced text = (d.declarations c).map Declaration.identifier := by
  obtain ⟨hcheck, -, ks, hks, rfl⟩ := render_eq_ok_iff.1 h
  unfold Transcript.referenced
  rw [filterMap_linesOf_render hcheck hks, Transcript.filterMap_reference?_constants,
    Transcript.filterMap_reference?_references, List.nil_append, items_references]
  · simp only [Settings.preamble, List.map_cons, List.map_nil, String.toList_append]
    rfl
  · simp only [String.toList_append]
    rfl
  · decide

/-- What the text of the declarations of a dictionary tells about it. -/
structure Told (d : Dictionary) (c : Settings) (text : String) (os : List (Outline Constant)) :
    Prop where
  outline : d.outline c = .ok os
  decoded : Transcript.decode text = some os
  declared : Transcript.declared text = (d.declarations c).map Declaration.identifier
  referenced : Transcript.referenced text = (d.declarations c).map Declaration.identifier
  distinct : ((d.declarations c).map Declaration.identifier).Nodup
  ascending : d.registry.Ascends → os.Pairwise fun p q => p.index < q.index
  membersAscending : (∀ g, .group g ∈ d.objects → g.members.Ascends) →
    ∀ kind index ks, .group kind index ks ∈ os → ks.Pairwise fun k k' => k.subindex < k'.subindex

theorem index_of_outline {o : Object} {q : Outline Constant}
    (h : (o.outline c).mapM Declaration.constant = .ok q) : q.index = o.index := by
  cases o with
  | plain v =>
      obtain ⟨k, hk, h⟩ := Report.bind_eq_ok_iff.1 h
      cases h
      obtain ⟨literal, -, rfl⟩ := Report.map_eq_ok_iff.1 hk
      rfl
  | group g =>
      obtain ⟨ks, -, h⟩ := Report.bind_eq_ok_iff.1 h
      cases h
      rfl

/-- The outlines of objects ascend as the objects do. -/
theorem ascending_outline {os : List (Outline Constant)} (h : d.outline c = .ok os)
    (hd : d.registry.Ascends) : os.Pairwise fun p q => p.index < q.index := by
  have hindex : os.map Outline.index = d.objects.map Object.index :=
    Report.map_eq_of_mapM h fun o q => index_of_outline
  rw [← List.pairwise_map (R := (· < ·)), hindex]
  exact List.pairwise_map.2 hd

/-- The members in an outline ascend as those of the group do. -/
theorem membersAscending_outline {os : List (Outline Constant)} (h : d.outline c = .ok os)
    (hd : ∀ g, .group g ∈ d.objects → g.members.Ascends) {kind : GroupKind} {index : UInt16}
    {ks : List Constant} (hmem : .group kind index ks ∈ os) :
    ks.Pairwise fun k k' => k.subindex < k'.subindex := by
  have hobject : .ok (.group kind index ks) ∈
      d.objects.map fun o => (o.outline c).mapM Declaration.constant := by
    rw [Report.mapM_eq_ok_iff.1 h]
    exact List.mem_map_of_mem hmem
  obtain ⟨o, ho, hok⟩ := List.mem_map.1 hobject
  cases o with
  | plain v =>
      obtain ⟨k, -, hok⟩ := Report.bind_eq_ok_iff.1 hok
      cases hok
  | group g =>
      obtain ⟨ks', hks, hok⟩ := Report.bind_eq_ok_iff.1 hok
      cases hok
      have hsubindex : ks.map Constant.subindex =
          (g.members.items.map fun m => c.declare (c.memberName g.name m.name) m).map
            fun x => x.subject.subindex := by
        refine Report.map_eq_of_mapM hks fun x k hk => ?_
        obtain ⟨literal, -, rfl⟩ := Report.map_eq_ok_iff.1 hk
        rfl
      rw [← List.pairwise_map (R := (· < ·)), hsubindex, List.map_map]
      exact List.pairwise_map.2 (hd g ho)

/-- What a rendered text tells. -/
theorem told_of_render (h : (d.render c).outcome = .ok text) : ∃ os, d.Told c text os := by
  obtain ⟨os, houtline, hdecode⟩ := decode_of_render h
  obtain ⟨-, hproject, -⟩ := render_eq_ok_iff.1 h
  exact ⟨os, houtline, hdecode, declared_of_render h, referenced_of_render h,
    outcome_project_eq_ok_iff.1 hproject, ascending_outline houtline,
    fun hd _ _ _ => membersAscending_outline houtline hd⟩

/-- Emitting succeeds by writing the rendered text as a whole. -/
theorem emit_of_outcome_ok {s : Sink} (h : (d.emit c s).2.outcome = .ok ()) :
    ∃ text, (d.render c).outcome = .ok text ∧
      (d.emit c s).1 = { s with taken := s.taken ++ [text] } := by
  unfold emit at h ⊢
  dsimp only at h ⊢
  cases hrender : (d.render c).outcome with
  | error f =>
      rw [hrender] at h
      cases h
  | ok text =>
      rw [hrender] at h
      refine ⟨text, rfl, ?_⟩
      unfold Sink.write? at h ⊢
      cases hrefusing : s.refusing with
      | true =>
          rw [hrefusing] at h
          cases h
      | false => rfl

end Dictionary

/-- **An emitted text determines the outline of its dictionary**: the objects in order, each with
its kind and index, and the identifier, address and default of each of its variables.  Whatever
dictionary is emitted as this text, under whatever settings, has this outline. -/
theorem emitted_text_is_faithful {d : Dictionary} {c : Settings} {s : Sink}
    (h : (d.emit c s).2.outcome = .ok ()) :
    ∃ text os, (d.emit c s).1 = { s with taken := s.taken ++ [text] } ∧ d.Told c text os ∧
      ∀ (d' : Dictionary) (c' : Settings) (s' : Sink), (d'.emit c' s').2.outcome = .ok () →
        (d'.emit c' s').1.taken = s'.taken ++ [text] → d'.outline c' = .ok os := by
  obtain ⟨text, hrender, hsink⟩ := Dictionary.emit_of_outcome_ok h
  obtain ⟨os, htold⟩ := Dictionary.told_of_render hrender
  refine ⟨text, os, hsink, htold, fun d' c' s' h' htaken => ?_⟩
  obtain ⟨text', hrender', hsink'⟩ := Dictionary.emit_of_outcome_ok h'
  have hsame : text' = text := by
    rw [hsink'] at htaken
    simpa using htaken
  subst hsame
  obtain ⟨os', htold'⟩ := Dictionary.told_of_render hrender'
  have hos : os' = os := Option.some.inj (htold'.decoded.symm.trans htold.decoded)
  exact hos ▸ htold'.outline

/-- A default that looks like the start of a declaration does not break the text. -/
theorem emitted_text_is_faithful_quoted : ∃ (d : Dictionary) (text : String)
    (os : List (Outline Constant)),
    d.objects =
      [.plain { Variable.blank "a" 0x2000 0 with
        dataType := some .visibleString
        defaultValue := some (.text "\");\npub const B: Variable =") }] ∧
    (d.emit .standard .accepting).2.outcome = .ok () ∧
    (d.emit .standard .accepting).1.taken = [text] ∧ d.Told .standard text os := by
  have hok : ((Dictionary.empty.insert (.plain { Variable.blank "a" 0x2000 0 with
      dataType := some .visibleString
      defaultValue := some (.text "\");\npub const B: Variable =") })).emit .standard
        .accepting).2.outcome = .ok () := by
    decide +kernel
  obtain ⟨text, os, hsink, htold, -⟩ := emitted_text_is_faithful hok
  exact ⟨_, text, os, rfl, hok, by rw [hsink]; rfl, htold⟩

end DataSheet
