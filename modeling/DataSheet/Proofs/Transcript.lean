/-
**Reading declarations back.**

The text of declarations has no brackets around its parts, so what it says must be told line by
line.  This module holds a reader of such texts.  It knows nothing about the settings with which a
text was made.  It takes the constants first, then the lines that assemble them, and then looks up
each constant to which these refer.

Main definitions:

* `Outline` — an object with something for each of its variables;
* `Constant` — what a declaration says about its variable;
* `Transcript.decode` — the outlines of all objects, as a text tells them;
* `Transcript.declared`, `Transcript.referenced` — the identifiers that a text declares, and those
  to which it refers.

Main results:

* `Transcript.constants?_lines` — the lines of constants are read back;
* `Transcript.references?_lines` — **the lines that assemble objects are read back**.
-/

import DataSheet.Declarations
import DataSheet.Proofs.Digits
import Mathlib.Data.List.Basic
import Mathlib.Data.List.TakeDrop

set_option relaxedAutoImplicit false
set_option autoImplicit false

namespace DataSheet

/-! ### Outlines -/

/-- An object with something for each of its variables. -/
inductive Outline (α : Type)
  | plain (a : α)
  | group (kind : GroupKind) (index : UInt16) (members : List α)
  deriving DecidableEq

namespace Outline

variable {α β : Type}

/-- What the outline has for its variables. -/
def items : Outline α → List α
  | plain a => [a]
  | group _ _ as => as

/-- Changes what the outline has for each variable. -/
def map (f : α → β) : Outline α → Outline β
  | plain a => plain (f a)
  | group kind index as => group kind index (as.map f)

/-- Changes what the outline has for each variable, in order, as far as that succeeds. -/
def mapM {m : Type → Type} [Monad m] (f : α → m β) : Outline α → m (Outline β)
  | plain a => do return plain (← f a)
  | group kind index as => do return group kind index (← as.mapM f)

end Outline

/-- What a declaration says: its identifier, the address of its variable and the default. -/
structure Constant where
  identifier : String
  index : UInt16
  subindex : UInt8
  literal : String
  deriving DecidableEq

/-- The index of an object: that of its variable, or that of the group. -/
def Outline.index : Outline Constant → UInt16
  | plain k => k.index
  | group _ index _ => index

/-- What a declaration says, if the default of its variable can be written. -/
def Declaration.constant (d : Declaration) : Except Fault Constant :=
  (defaultLiteral d.subject).map fun literal =>
    ⟨d.identifier, d.subject.index, d.subject.subindex, literal⟩

/-- An object with the declaration of each of its variables. -/
def Object.outline (c : Settings) : Object → Outline Declaration
  | plain v => .plain (c.declare v.name v)
  | group g =>
    .group g.kind g.index (g.members.items.map fun m => c.declare (c.memberName g.name m.name) m)

/-- The objects of a dictionary, with what is declared for each of their variables. -/
def Dictionary.outline (d : Dictionary) (c : Settings) : Except Fault (List (Outline Constant)) :=
  d.objects.mapM fun o => (o.outline c).mapM Declaration.constant

/-! ### Lines of declarations -/

/-- The lines of a constant. -/
def Constant.lines (k : Constant) : List String :=
  ["pub const " ++ k.identifier ++ ": Variable =",
    "    Variable::new(" ++ indexText k.index ++ ", 0x" ++ subindexText k.subindex ++ ", " ++
      k.literal ++ ");"]

/-- The lines that assemble an object from constants. -/
def Outline.lines : Outline String → List String
  | plain i => ["    od.add_variable(" ++ i ++ ");"]
  | group kind index is =>
    ["    od." ++ kind.adder ++ "(" ++ kind.typeName ++ " \x7b",
      "        index: " ++ indexText index ++ ","] ++ memberLines is ++ ["    \x7d);"]

theorem Declaration.lines_eq (d : Declaration) : d.lines = d.constant.map Constant.lines := by
  unfold lines constant
  cases defaultLiteral d.subject <;> rfl

theorem Object.assembly_eq (c : Settings) (o : Object) :
    o.assembly c = ((o.outline c).map Declaration.identifier).lines := by
  cases o <;> rfl

namespace Transcript

/-! ### Reading single lines -/

/-- What stands between two given texts on a line. -/
def between? (before after : String) (line : List Char) : Option (List Char) :=
  (line.dropPrefix? before.toList).bind fun rest => rest.dropSuffix? after.toList

/-- What stands before the first comma, and the comma with what follows. -/
def atComma (s : List Char) : List Char × List Char := s.span fun c => c ≠ ','

/-- The arguments of a constant. -/
def arguments? (s : List Char) : Option (UInt16 × UInt8 × String) := do
  let (index, s) := atComma s
  let (subindex, s) := atComma (← s.dropPrefix? ", 0x".toList)
  let literal ← s.dropPrefix? ", ".toList
  return (UInt16.ofNat (← Text.number? 16 index), UInt8.ofNat (← Text.number? 16 subindex),
    String.ofList literal)

/-- The constant that two lines declare. -/
def constant? (first second : List Char) : Option Constant := do
  let identifier ← between? "pub const " ": Variable =" first
  let (index, subindex, literal) ← arguments? (← between? "    Variable::new(0x" ");" second)
  return ⟨String.ofList identifier, index, subindex, literal⟩

/-- The kind of group that a line opens. -/
def opening? (line : List Char) : Option GroupKind :=
  if line = "    od.add_record(Record \x7b".toList then some .record
  else if line = "    od.add_array(Array \x7b".toList then some .array
  else none

/-! ### Reading all lines -/

/-- The constants that lines declare up to a blank line, and the lines after it. -/
def constants? : List (List Char) → Option (List Constant × List (List Char))
  | [] => none
  | [] :: lines => some ([], lines)
  | [_ :: _] => none
  | (c :: first) :: second :: lines => do
    let k ← constant? (c :: first) second
    let (ks, rest) ← constants? lines
    return (k :: ks, rest)

/-- Where reading stands with respect to a group. -/
inductive Place
  | outside
  | opened (kind : GroupKind)
  | indexed (kind : GroupKind) (index : UInt16)
  /-- Among the members, with those read so far. -/
  | listing (kind : GroupKind) (index : UInt16) (identifiers : List String)
  /-- Behind the members. -/
  | listed (kind : GroupKind) (index : UInt16) (identifiers : List String)

/-- The objects that lines assemble, each with the identifiers of its constants. -/
def references? : Place → List (List Char) → Option (List (Outline String))
  | _, [] => none
  | .outside, line :: lines =>
    if line = "    od".toList then some []
    else
      match between? "    od.add_variable(" ");" line with
      | some i => do return .plain (String.ofList i) :: (← references? .outside lines)
      | none => do references? (.opened (← opening? line)) lines
  | .opened kind, line :: lines => do
    let digits ← between? "        index: 0x" "," line
    references? (.indexed kind (UInt16.ofNat (← Text.number? 16 digits))) lines
  | .indexed kind index, line :: lines =>
    if line = "        members: vec![],".toList then references? (.listed kind index []) lines
    else if line = "        members: vec![".toList then references? (.listing kind index []) lines
    else none
  | .listing kind index is, line :: lines =>
    if line = "        ],".toList then references? (.listed kind index is) lines
    else do
      let i ← between? "            " "," line
      references? (.listing kind index (is ++ [String.ofList i])) lines
  | .listed kind index is, line :: lines =>
    if line = "    \x7d);".toList then do
      return .group kind index is :: (← references? .outside lines)
    else none

/-- The lines of a text. -/
def linesOf (text : String) : List (List Char) := text.toList.splitOn '\n'

/-- The objects that a text tells, with what it declares for each of their variables. -/
def decode (text : String) : Option (List (Outline Constant)) := do
  let (constants, lines) ← constants? ((linesOf text).drop 4)
  let references ← references? .outside (lines.drop 2)
  references.mapM fun r => r.mapM fun i => constants.find? fun k => k.identifier = i

/-- The identifier that a line declares. -/
def declaration? (line : List Char) : Option String :=
  (between? "pub const " ": Variable =" line).map String.ofList

/-- The identifier to which a line refers. -/
def reference? (line : List Char) : Option String :=
  ((between? "    od.add_variable(" ");" line).or (between? "            " "," line)).map
    String.ofList

/-- The identifiers that a text declares, in the order of its lines. -/
def declared (text : String) : List String := (linesOf text).filterMap declaration?

/-- The identifiers to which a text refers, in the order of its lines. -/
def referenced (text : String) : List String := (linesOf text).filterMap reference?

/-! ### Lines are read back -/

theorem dropPrefix?_append (p s : List Char) : (p ++ s).dropPrefix? p = some s :=
  List.dropPrefix?_append_of_beq s (beq_self_eq_true p)

theorem between?_append (before after : String) (s : List Char) :
    between? before after (before.toList ++ (s ++ after.toList)) = some s := by
  unfold between?
  rw [dropPrefix?_append, Option.bind_some, List.dropSuffix?_eq_some_iff]
  exact ⟨after.toList, rfl, beq_self_eq_true _⟩

/-- A line with a text between two fixed ones, as its characters. -/
theorem toList_enclosed (before s after : String) :
    (before ++ s ++ after).toList = before.toList ++ (s.toList ++ after.toList) := by
  rw [String.toList_append, String.toList_append, List.append_assoc]

/-- What a line encloses between two fixed texts is read back. -/
theorem between?_enclosed (before s after : String) :
    between? before after (before ++ s ++ after).toList = some s.toList := by
  rw [toList_enclosed, between?_append]

theorem atComma_append {s : List Char} (h : ',' ∉ s) (t : List Char) :
    atComma (s ++ ',' :: t) = (s, ',' :: t) := by
  have hpart : ∀ c ∈ s, decide (c ≠ ',') = true := by
    intro c hc
    rw [decide_eq_true_eq]
    rintro rfl
    exact h hc
  unfold atComma
  rw [List.span_eq_takeWhile_dropWhile, List.takeWhile_append_of_pos hpart,
    List.dropWhile_append_of_pos hpart]
  simp

theorem not_mem_upperHex (width n : Nat) : ',' ∉ (Text.upperHex width n).toList := by
  intro hmem
  have := Text.isDigit_of_number? (Text.number?_upperHex width n) ',' hmem
  cases this

/-- The arguments of a constant are read back. -/
theorem arguments?_append (index : UInt16) (subindex : UInt8) (literal : String) :
    arguments? ((Text.upperHex 4 index.toNat).toList ++ (", 0x".toList ++
      ((Text.upperHex 2 subindex.toNat).toList ++ (", ".toList ++ literal.toList)))) =
      some (index, subindex, literal) := by
  have hindex : ∀ rest, atComma ((Text.upperHex 4 index.toNat).toList ++ (", 0x".toList ++ rest)) =
      ((Text.upperHex 4 index.toNat).toList, ", 0x".toList ++ rest) := fun _ =>
    atComma_append (not_mem_upperHex 4 index.toNat) _
  have hsubindex : ∀ rest,
      atComma ((Text.upperHex 2 subindex.toNat).toList ++ (", ".toList ++ rest)) =
        ((Text.upperHex 2 subindex.toNat).toList, ", ".toList ++ rest) := fun _ =>
    atComma_append (not_mem_upperHex 2 subindex.toNat) _
  simp only [arguments?, hindex, hsubindex, dropPrefix?_append, Text.number?_upperHex,
    Option.bind_eq_bind, Option.bind_some, Option.pure_def, String.ofList_toList,
    UInt16.ofNat_toNat, UInt8.ofNat_toNat]

/-- The two lines of a constant are read back. -/
theorem constant?_append (k : Constant) :
    constant? ("pub const ".toList ++ (k.identifier.toList ++ ": Variable =".toList))
      ("    Variable::new(0x".toList ++ (((Text.upperHex 4 k.index.toNat).toList ++
        (", 0x".toList ++ ((Text.upperHex 2 k.subindex.toNat).toList ++
          (", ".toList ++ k.literal.toList)))) ++ ");".toList)) = some k := by
  simp only [constant?, between?_append, arguments?_append, Option.bind_eq_bind, Option.bind_some,
    Option.pure_def, String.ofList_toList]

/-- The lines of constants are read back, up to the blank line behind them. -/
theorem constants?_lines (ks : List Constant) (rest : List (List Char)) :
    constants? ((ks.flatMap Constant.lines).map String.toList ++ [] :: rest) = some (ks, rest) := by
  induction ks with
  | nil => rfl
  | cons k ks ih =>
      have hconstant := constant?_append k
      have hfirst : ("pub const " ++ k.identifier ++ ": Variable =").toList =
          'p' :: ("ub const ".toList ++ (k.identifier.toList ++ ": Variable =".toList)) := by
        simp
      have hsecond : ("    Variable::new(" ++ indexText k.index ++ ", 0x" ++
          subindexText k.subindex ++ ", " ++ k.literal ++ ");").toList =
          "    Variable::new(0x".toList ++ (((Text.upperHex 4 k.index.toNat).toList ++
            (", 0x".toList ++ ((Text.upperHex 2 k.subindex.toNat).toList ++
              (", ".toList ++ k.literal.toList)))) ++ ");".toList) := by
        simp [indexText, subindexText]
      rw [List.flatMap_cons, List.map_append, List.append_assoc]
      change constants? (String.toList _ :: String.toList _ ::
        ((ks.flatMap Constant.lines).map String.toList ++ [] :: rest)) = _
      -- the first line is not blank, so another constant follows
      rw [hfirst, hsecond, constants?]
      change (constant? ("pub const ".toList ++ _) _ >>= _) = _
      rw [hconstant, ih]
      rfl

/-- A line for a variable is read back. -/
theorem references?_plain (i : String) (rest : List (List Char)) :
    references? .outside (((Outline.plain i).lines).map String.toList ++ rest) =
      (references? .outside rest).map (.plain i :: ·) := by
  have hend : ("    od.add_variable(" ++ i ++ ");").toList ≠ "    od".toList := by
    simp
  change references? .outside (String.toList _ :: rest) = _
  rw [references?, if_neg hend, between?_enclosed]
  simp only [String.ofList_toList]
  cases references? .outside rest <;> rfl

/-- The lines of members are read back, behind those read so far. -/
theorem references?_listing (kind : GroupKind) (index : UInt16) (is js : List String)
    (rest : List (List Char)) :
    references? (.listing kind index is)
      ((js.map fun i => ("            " ++ i ++ ",").toList) ++ "        ],".toList :: rest) =
      references? (.listed kind index (is ++ js)) rest := by
  induction js generalizing is with
  | nil =>
      rw [List.append_nil]
      change references? _ ("        ],".toList :: rest) = _
      rw [references?, if_pos rfl]
  | cons j js ih =>
      have hend : ("            " ++ j ++ ",").toList ≠ "        ],".toList := by
        simp
      rw [List.map_cons, List.cons_append, references?, if_neg hend, between?_enclosed]
      simp only [Option.bind_eq_bind, Option.bind_some, String.ofList_toList]
      rw [ih, List.append_assoc]
      rfl

theorem references?_memberLines (kind : GroupKind) (index : UInt16) (is : List String)
    (rest : List (List Char)) :
    references? (.indexed kind index) ((memberLines is).map String.toList ++ rest) =
      references? (.listed kind index is) rest := by
  unfold memberLines
  split
  next h =>
    subst h
    change references? _ ("        members: vec![],".toList :: rest) = _
    rw [references?, if_pos rfl]
  · have hlist := references?_listing kind index [] is rest
    have hlines : ("        members: vec![" ::
        is.map (fun i => "            " ++ i ++ ",") ++ ["        ],"]).map String.toList ++ rest =
        "        members: vec![".toList ::
          ((is.map fun i => ("            " ++ i ++ ",").toList) ++
            "        ],".toList :: rest) := by
      simp [Function.comp_def]
    rw [hlines, references?, if_neg (by decide), if_pos rfl, hlist]
    rfl

/-- The lines of a group are read back. -/
theorem references?_group (kind : GroupKind) (index : UInt16) (is : List String)
    (rest : List (List Char)) :
    references? .outside (((Outline.group kind index is).lines).map String.toList ++ rest) =
      (references? .outside rest).map (.group kind index is :: ·) := by
  have hindex : ("        index: " ++ indexText index ++ ",").toList =
      "        index: 0x".toList ++ ((Text.upperHex 4 index.toNat).toList ++ ",".toList) := by
    simp [indexText]
  have hlines : ((Outline.group kind index is).lines).map String.toList ++ rest =
      ("    od." ++ kind.adder ++ "(" ++ kind.typeName ++ " \x7b").toList ::
        ("        index: " ++ indexText index ++ ",").toList ::
          ((memberLines is).map String.toList ++ "    \x7d);".toList :: rest) := by
    simp [Outline.lines]
  -- the first line tells the kind, so it is read for each kind apart
  have hopen : ∀ lines, references? .outside
      (("    od." ++ kind.adder ++ "(" ++ kind.typeName ++ " \x7b").toList :: lines) =
        references? (.opened kind) lines := by
    intro lines
    cases kind <;> rfl
  rw [hlines, hopen, references?, hindex, between?_append]
  simp only [Option.bind_eq_bind, Option.bind_some, Text.number?_upperHex, UInt16.ofNat_toNat]
  rw [references?_memberLines, references?, if_pos rfl]
  cases references? .outside rest <;> rfl

/-- **The lines that assemble objects are read back**, up to the line behind them. -/
theorem references?_lines (rs : List (Outline String)) (rest : List (List Char)) :
    references? .outside ((rs.flatMap Outline.lines).map String.toList ++ "    od".toList :: rest) =
      some rs := by
  induction rs with
  | nil =>
      change references? _ ("    od".toList :: rest) = _
      rw [references?, if_pos rfl]
  | cons r rs ih =>
      rw [List.flatMap_cons, List.map_append, List.append_assoc]
      cases r with
      | plain i => rw [references?_plain, ih, Option.map_some]
      | group kind index is => rw [references?_group, ih, Option.map_some]

end Transcript

end DataSheet
