/-
**The items of emitted declarations.**

The items of an emitted text are the constants and the function that assembles them.  Each has an
identifier for its name, and no two constants share one.  What is not checked is where the two kinds
meet: the function may have the name of a constant, and a constant may have a keyword for its name,
if the settings put the keyword in front and nothing is left of the name of the variable.

Main definitions:

* `Dictionary.declaredNames` — the names from which the identifiers of the constants are made;
* `Transcript.items` — the names of the items of a text.

Main results:

* `Identifier.plain_ofName` — every name has an identifier;
* `Identifier.ofName_mem_keywords_iff` — when it is a keyword;
* `Transcript.items_of_render` — the items of a rendered text;
* `item_names_exact` — **the names of the items of an emitted text are identifiers, and exactly when
  they are free of keywords and distinct**.
-/

import DataSheet.Build.Dictionary
import DataSheet.Proofs.Emittable
import DataSheet.Proofs.Letters

set_option relaxedAutoImplicit false
set_option autoImplicit false

namespace DataSheet

/-! ### Identifiers of names -/

theorem Text.isLower_iff {c : Char} : c.isLower ↔ 97 ≤ c.toNat ∧ c.toNat ≤ 122 := by
  change (decide ('a'.val ≤ c.val) && decide (c.val ≤ 'z'.val)) = true ↔ _
  rw [Bool.and_eq_true, decide_eq_true_eq, decide_eq_true_eq, UInt32.le_iff_toNat_le,
    UInt32.le_iff_toNat_le]
  rfl

/-- No letter is in lower case once it is taken in upper case. -/
theorem Text.not_isLower_toUpper (c : Char) : ¬ c.toUpper.isLower := by
  rw [isLower_iff, toNat_toUpper]
  split <;> omega

namespace Identifier

theorem isDropped_iff {c : Char} : isDropped c ↔ c.toNat = 40 ∨ c.toNat = 41 ∨ c.toNat = 37 := by
  unfold isDropped
  simp only [Bool.or_eq_true, beq_iff_eq, ← Char.toNat_inj, or_assoc]
  rfl

@[simp] theorem isDropped_toUpper (c : Char) : isDropped c.toUpper = isDropped c := by
  rw [Bool.eq_iff_iff, isDropped_iff, isDropped_iff, Text.toNat_toUpper]
  split <;> omega

/-- Nothing is left of a text exactly if all its characters are dropped. -/
theorem normal_eq_nil_iff {s : List Char} : normal s = [] ↔ ∀ c ∈ s, isDropped c := by
  unfold normal
  rw [List.flatMap_eq_nil_iff]
  refine forall₂_congr fun c _ => ?_
  unfold keep
  split
  next h => simp [h]
  next h => split <;> simp [h]

theorem normal_upper_eq_nil_iff {s : List Char} :
    normal (Text.upper s) = [] ↔ ∀ c ∈ s, isDropped c := by
  simp [normal_eq_nil_iff, Text.upper]

/-- What is left of a name has no letter in lower case. -/
theorem not_isLower_of_mem_normal_upper {s : List Char} {c : Char}
    (h : c ∈ normal (Text.upper s)) : ¬ c.isLower := by
  obtain ⟨d, hd, hc⟩ := List.mem_flatMap.1 h
  obtain ⟨e, -, rfl⟩ := List.mem_map.1 hd
  unfold keep at hc
  split at hc
  · cases hc
  · split at hc
    · rw [List.mem_singleton.1 hc]
      exact Text.not_isLower_toUpper e
    · rw [List.mem_singleton.1 hc]
      decide

/-! ### Every name has an identifier -/

/-- Behind the guard a text of parts starts with no digit. -/
theorem plain_complete_guard {s : List Char} (h : ∀ c ∈ s, isPart c) :
    Plain (complete (guard s)) := by
  have hparts : ∀ c, isPart c ↔ c.isAlphanum ∨ c = '_' := by simp [isPart]
  unfold complete
  split
  next =>
    exact ⟨'_', ['_'], rfl, by decide, List.forall_mem_singleton.2 (by decide), by decide⟩
  next hlong =>
    rw [not_or] at hlong
    cases s with
    | nil => exact absurd rfl hlong.1
    | cons c s =>
        rw [guard] at hlong ⊢
        split at hlong
        next hdigit =>
          rw [if_pos hdigit]
          exact ⟨'_', c :: s, rfl, .inr rfl, fun d hd => (hparts d).1 (h d hd), hlong.2⟩
        next hdigit =>
          rw [if_neg hdigit]
          refine ⟨c, s, rfl, ?_, fun d hd => (hparts d).1 (h d (List.mem_cons_of_mem c hd)),
            hlong.2⟩
          have hc := (hparts c).1 (h c List.mem_cons_self)
          simpa [Char.isAlphanum, hdigit] using hc

/-- **Every name has an identifier**, whatever is put before it. -/
theorem plain_ofName (start name : String) : Plain (ofName start name).toList := by
  unfold ofName
  rw [String.toList_ofList]
  refine plain_complete_guard fun c hc => ?_
  rcases List.mem_append.1 hc with hc | hc <;> exact isPart_of_mem_normal hc

/-! ### Identifiers that are keywords -/

theorem complete_guard_of_keyword : ∀ k ∈ keywords, complete (guard k.toList) = k.toList := by
  decide

/-- What the guard and the completion change is no keyword afterwards, since no keyword starts with
an underscore. -/
theorem eq_of_complete_guard_mem {s : List Char}
    (h : String.ofList (complete (guard s)) ∈ keywords) : complete (guard s) = s := by
  have hstart : ∀ k ∈ keywords, k.toList.head? ≠ some '_' := by decide
  have hhead := hstart _ h
  rw [String.toList_ofList] at hhead
  unfold complete at hhead ⊢
  split at hhead
  next => exact absurd rfl hhead
  next hlong =>
    rw [if_neg hlong]
    cases s with
    | nil => rfl
    | cons c s =>
        rw [guard] at hhead ⊢
        split at hhead
        next => exact absurd rfl hhead
        next hdigit => rw [if_neg hdigit]

/-- **An identifier is a keyword exactly if the text before the name is one and nothing is left of
the name.** -/
theorem ofName_mem_keywords_iff {start name : String} :
    ofName start name ∈ keywords ↔
      String.ofList (normal start.toList) ∈ keywords ∧ ∀ c ∈ name.toList, isDropped c := by
  rw [← normal_upper_eq_nil_iff]
  unfold ofName
  constructor
  · intro h
    rw [eq_of_complete_guard_mem h] at h
    -- every keyword ends in lower case, and a name has no such letter
    have hend : ∀ k ∈ keywords, k.toList.getLast?.any Char.isLower := by decide
    obtain ⟨c, hlast, hlower⟩ := (Option.any_eq_true _ _).1 (hend _ h)
    rw [String.toList_ofList] at hlast
    have hnil : normal (Text.upper name.toList) = [] := by
      by_contra hne
      rw [List.getLast?_append_of_ne_nil _ hne] at hlast
      exact not_isLower_of_mem_normal_upper (List.mem_of_getLast? hlast) hlower
    rw [hnil, List.append_nil] at h
    exact ⟨h, hnil⟩
  · rintro ⟨h, hnil⟩
    have hsame := complete_guard_of_keyword _ h
    rw [String.toList_ofList] at hsame
    rwa [hnil, List.append_nil, hsame]

end Identifier

/-! ### The names from which identifiers are made -/

/-- The names under which the variables of an object are declared. -/
def Object.declaredNames (c : Settings) : Object → List String
  | .plain v => [v.name]
  | .group g => g.members.items.map fun m => c.memberName g.name m.name

/-- The names under which the variables of a dictionary are declared, in order. -/
def Dictionary.declaredNames (d : Dictionary) (c : Settings) : List String :=
  d.objects.flatMap (Object.declaredNames c)

theorem Dictionary.identifiers_eq (d : Dictionary) (c : Settings) :
    (d.declarations c).map Declaration.identifier =
      (d.declaredNames c).map (Identifier.ofName c.constantStart) := by
  unfold declarations declaredNames
  rw [List.map_flatMap, List.map_flatMap]
  refine List.flatMap_congr fun o _ => ?_
  cases o with
  | plain v => rfl
  | group g =>
      change (List.map _ _).map _ = (List.map _ _).map _
      rw [List.map_map, List.map_map]
      rfl

/-! ### The items of a text -/

namespace Transcript

/-- The name of the function that a line starts. -/
def function? (line : List Char) : Option String :=
  (between? "pub fn " "() -> ObjectDictionary \x7b" line).map String.ofList

/-- The name of the item that a line starts. -/
def item? (line : List Char) : Option String := (declaration? line).or (function? line)

/-- The names of the items of a text, in the order of its lines. -/
def items (text : String) : List String := (linesOf text).filterMap item?

theorem item?_declaration (i : String) :
    item? ("pub const " ++ i ++ ": Variable =").toList = some i := by
  rw [item?, declaration?, between?_enclosed, Option.map_some, String.ofList_toList]
  rfl

theorem item?_function (name : String) :
    item? ("pub fn " ++ name ++ "() -> ObjectDictionary \x7b").toList = some name := by
  have hconstant : declaration? ("pub fn " ++ name ++ "() -> ObjectDictionary \x7b").toList =
      none := by
    simp only [String.toList_append]
    rfl
  rw [item?, hconstant, function?, between?_enclosed, Option.map_some, String.ofList_toList]
  rfl

theorem filterMap_item?_constants (ks : List Constant) :
    ((ks.flatMap Constant.lines).map String.toList).filterMap item? =
      ks.map Constant.identifier := by
  induction ks with
  | nil => rfl
  | cons k ks ih =>
      have hsecond : item? ("    Variable::new(" ++ indexText k.index ++ ", 0x" ++
          subindexText k.subindex ++ ", " ++ k.literal ++ ");").toList = none := by
        simp only [String.toList_append]
        rfl
      rw [List.flatMap_cons, List.map_append, List.filterMap_append, ih]
      change List.filterMap item? [String.toList _, String.toList _] ++ _ = _
      rw [List.filterMap_cons_some (item?_declaration _), List.filterMap_cons_none hsecond]
      rfl

/-- Within the function no item starts. -/
theorem filterMap_item?_references (rs : List (Outline String)) :
    ((rs.flatMap Outline.lines).map String.toList).filterMap item? = [] := by
  rw [List.filterMap_eq_nil_iff]
  intro line hline
  obtain ⟨l, hl, rfl⟩ := List.mem_map.1 hline
  obtain ⟨r, -, hl⟩ := List.mem_flatMap.1 hl
  obtain ⟨rest, hrest⟩ := indented_of_mem_lines l hl
  rw [hrest]
  rfl

/-- **The items of a rendered text** are the constants in order, and the function behind them. -/
theorem items_of_render {d : Dictionary} {c : Settings} {text : String}
    (h : (d.render c).outcome = .ok text) :
    items text =
      (d.declaredNames c).map (Identifier.ofName c.constantStart) ++ [c.builderName] := by
  obtain ⟨hcheck, -, ks, hks, rfl⟩ := Dictionary.render_eq_ok_iff.1 h
  have hpreamble : (c.preamble.map String.toList).filterMap item? = [] := by
    simp only [Settings.preamble, List.map_cons, List.map_nil, String.toList_append]
    rfl
  have hblank : item? [] = none := rfl
  have hstart : item? "    let mut od = ObjectDictionary::default();".toList = none := by decide
  have hend : ["    od".toList, "\x7d".toList, []].filterMap item? = [] := by decide
  unfold items
  rw [Dictionary.linesOf_render hcheck hks, List.filterMap_append, List.filterMap_append, hpreamble,
    filterMap_item?_constants, List.filterMap_cons_none hblank,
    List.filterMap_cons_some (item?_function c.builderName), List.filterMap_cons_none hstart,
    List.filterMap_append, filterMap_item?_references, hend, map_identifier_constants hks,
    Dictionary.identifiers_eq]
  rfl

/-- The items of what is written to an empty sink. -/
theorem items_of_emit {d : Dictionary} {c : Settings}
    (h : (d.emit c .accepting).2.outcome = .ok ()) :
    items (d.emit c .accepting).1.content =
      (d.declaredNames c).map (Identifier.ofName c.constantStart) ++ [c.builderName] := by
  obtain ⟨text, hrender, hsink⟩ := Dictionary.emit_of_outcome_ok h
  have hcontent : (d.emit c .accepting).1.content = text := by
    rw [hsink]
    exact String.empty_append
  rw [hcontent, items_of_render hrender]

end Transcript

/-! ### The names of items -/

/-- **The names of the items of an emitted text**: the identifiers of the constants, which are
distinct, and behind them the name of the function.  All are identifiers.  They are distinct as a
whole exactly if the function has the name of no constant, and free of keywords exactly unless the
settings put a keyword before a name of which nothing is left. -/
theorem item_names_exact {d : Dictionary} {c : Settings} {s : Sink}
    (h : (d.emit c s).2.outcome = .ok ()) :
    ∃ text constants, (d.emit c s).1 = { s with taken := s.taken ++ [text] } ∧
      constants = (d.declaredNames c).map (Identifier.ofName c.constantStart) ∧
      Transcript.items text = constants ++ [c.builderName] ∧
      constants.Nodup ∧ c.builderName ∉ Identifier.keywords ∧
      (∀ i ∈ Transcript.items text, Identifier.Plain i.toList) ∧
      ((Transcript.items text).Nodup ↔ c.builderName ∉ constants) ∧
      ((∃ i ∈ Transcript.items text, i ∈ Identifier.keywords) ↔
        String.ofList (Identifier.normal c.constantStart.toList) ∈ Identifier.keywords ∧
          ∃ name ∈ d.declaredNames c, ∀ x ∈ name.toList, Identifier.isDropped x) := by
  obtain ⟨text, hrender, hsink⟩ := Dictionary.emit_of_outcome_ok h
  have hitems := Transcript.items_of_render hrender
  obtain ⟨hcheck, hproject, -⟩ := Dictionary.render_eq_ok_iff.1 hrender
  have hfree := (Settings.check_eq_ok_iff.1 hcheck).1
  have hnodup := Dictionary.outcome_project_eq_ok_iff.1 hproject
  rw [Dictionary.identifiers_eq] at hnodup
  refine ⟨text, _, hsink, rfl, hitems, hnodup, hfree.2, ?_, ?_, ?_⟩ <;> rw [hitems]
  · intro i hi
    rcases List.mem_append.1 hi with hi | hi
    · obtain ⟨name, -, rfl⟩ := List.mem_map.1 hi
      exact Identifier.plain_ofName _ _
    · rw [List.mem_singleton.1 hi]
      exact hfree.1
  · rw [List.nodup_append]
    simp [hnodup]
  · constructor
    · rintro ⟨i, hi, hkeyword⟩
      rcases List.mem_append.1 hi with hi | hi
      · obtain ⟨name, hname, rfl⟩ := List.mem_map.1 hi
        obtain ⟨hstart, hdropped⟩ := Identifier.ofName_mem_keywords_iff.1 hkeyword
        exact ⟨hstart, name, hname, hdropped⟩
      · rw [List.mem_singleton.1 hi] at hkeyword
        exact absurd hkeyword hfree.2
    · rintro ⟨hstart, name, hname, hdropped⟩
      exact ⟨_, List.mem_append_left _ (List.mem_map_of_mem hname),
        Identifier.ofName_mem_keywords_iff.2 ⟨hstart, hdropped⟩⟩

/-- The items for a variable with a name of two words are distinct, and none is a keyword. -/
theorem item_names_exact_twoWords : ∃ (d : Dictionary) (text : String),
    (Dictionary.ofText "[2000]\nParameterName=Motor speed\nDataType=5" none).outcome = .ok d ∧
    (d.emit Settings.standard .accepting).1 = { Sink.accepting with taken := [text] } ∧
    (Transcript.items text).Nodup ∧ ∀ i ∈ Transcript.items text, i ∉ Identifier.keywords := by
  have hemit : (Dictionary.emit (.insert .empty (.plain
      { Variable.blank "Motor speed" 0x2000 0 with dataType := some .unsigned8 }))
      Settings.standard .accepting).2.outcome = .ok () := by
    decide +kernel
  obtain ⟨text, constants, htext, rfl, -, -, -, -, hnodup, hkeyword⟩ := item_names_exact hemit
  refine ⟨_, text, by decide +kernel, htext, hnodup.2 (by decide +kernel), fun i hi hmem => ?_⟩
  have hstart := (hkeyword.1 ⟨i, hi, hmem⟩).1
  exact absurd hstart (by decide +kernel)

/-- A variable `build` has the constant `BUILD` where nothing is put before it, and the function may
have this name as well.  Of a variable `()` nothing is left, so its constant is `fn` where this is
put before it. -/
theorem item_names_build_and_fn : ∃ (d e : Dictionary) (c k : Settings),
    (Dictionary.ofText "[2000]\nParameterName=build\nDataType=5" none).outcome = .ok d ∧
    (Dictionary.ofText "[2000]\nParameterName=()\nDataType=5" none).outcome = .ok e ∧
    c = { Settings.standard with constantStart := "", builderName := "BUILD" } ∧
    k = { Settings.standard with constantStart := "fn" } ∧
    (d.emit c .accepting).2.outcome = .ok () ∧
    Transcript.items (d.emit c .accepting).1.content = ["BUILD", "BUILD"] ∧
    (e.emit k .accepting).2.outcome = .ok () ∧
    Transcript.items (e.emit k .accepting).1.content = ["fn", "get_od"] ∧
    "fn" ∈ Identifier.keywords := by
  refine ⟨.insert .empty
      (.plain { Variable.blank "build" 0x2000 0 with dataType := some .unsigned8 }),
    .insert .empty
      (.plain { Variable.blank "()" 0x2000 0 with dataType := some .unsigned8 }), _, _,
    by decide +kernel, by decide +kernel, rfl, rfl, by decide +kernel, ?_, by decide +kernel, ?_,
    by decide⟩
  · rw [Transcript.items_of_emit (by decide +kernel)]
    decide +kernel
  · rw [Transcript.items_of_emit (by decide +kernel)]
    decide +kernel

end DataSheet
