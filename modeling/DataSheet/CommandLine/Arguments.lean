/-
**Arguments of the command line.**

Arguments are positional, options with a value, or flags.  A value may be attached to its option or
follow it; short flags may be written together; after a double dash everything is positional.
Arguments are taken one by one, and the first that cannot be taken decides the outcome.

Main definitions:

* `Arguments` — what the command line asks for;
* `UsageFault` — what else may come of it;
* `Arguments.ofList` — taking the arguments;
* `Arguments.severity`, `Arguments.override` — what follows from them.
-/

import DataSheet.Notice
import DataSheet.Settings

set_option relaxedAutoImplicit false
set_option autoImplicit false

namespace DataSheet

/-- What the command line asks for. -/
structure Arguments where
  input : String
  output : String
  nodeId : Option UInt8
  /-- The path of a file with settings. -/
  settings : Option String
  constantStart : Option String
  modulePath : Option String
  builderName : Option String
  memberSeparator : Option String
  /-- Whether the dictionary is to be dumped. -/
  dump : Bool
  /-- How often more notices are asked for. -/
  verbose : Nat
  /-- How often fewer notices are asked for. -/
  quiet : Nat
  deriving DecidableEq

/-- What may come of a command line instead of arguments. -/
inductive UsageFault
  | unknownArgument
  | missingArgument
  /-- A value is not one that the option takes. -/
  | badValue
  /-- An option is without its value, or a path is empty. -/
  | noValue
  /-- Two arguments exclude each other, or one that may be given once is given again. -/
  | conflict
  /-- A flag has a value. -/
  | unneededValue
  | help
  | version
  deriving DecidableEq

namespace Arguments

/-! ### What can be given -/

/-- What takes a value. -/
inductive Slot
  | input
  | output
  | nodeId
  | settings
  | constantStart
  | modulePath
  | builderName
  | memberSeparator
  deriving DecidableEq

/-- What takes none. -/
inductive Flag
  | dump
  | verbose
  | quiet
  | help
  | version
  deriving DecidableEq

/-- An option by name. -/
inductive Switch
  | valued (slot : Slot)
  | flag (f : Flag)
  deriving DecidableEq

/-- The option with a long name. -/
def long? (name : String) : Option Switch :=
  [("node-id", .valued .nodeId), ("config", .valued .settings), ("prefix", .valued .constantStart),
    ("module-path", .valued .modulePath), ("builder-name", .valued .builderName),
    ("member-separator", .valued .memberSeparator), ("dump-json", .flag .dump),
    ("verbose", .flag .verbose), ("quiet", .flag .quiet), ("help", .flag .help),
    ("version", Switch.flag .version)].lookup name

/-- The option with a short name. -/
def short? (name : Char) : Option Switch :=
  [('n', .valued .nodeId), ('c', .valued .settings), ('v', .flag .verbose), ('q', .flag .quiet),
    ('h', .flag .help), ('V', Switch.flag .version)].lookup name

/-! ### Values -/

/-- The node id that a value denotes, which lies between one and 127. -/
def node? (value : String) : Option UInt8 :=
  let digits :=
    match value.toList with
    | '+' :: s => s
    | s => s
  ((Text.number? 10 digits).filter fun n => 1 ≤ n && n ≤ 127).map UInt8.ofNat

/-- What is given so far. -/
structure Draft where
  values : List (Slot × String)
  nodeId : Option UInt8
  dump : Bool
  verbose : Nat
  quiet : Nat
  /-- What waits to be taken: a slot and the value that was found for it, if one was. -/
  pending : Option (Slot × Option String)
  /-- The slots of the positional arguments to come. -/
  positions : List Slot
  /-- A double dash was found. -/
  literal : Bool
  /-- An option waits for the next argument. -/
  awaiting : Bool

namespace Draft

/-- Nothing is given. -/
def start : Draft := ⟨[], none, false, 0, 0, none, [.input, .output], false, false⟩

/-- The value given for a slot. -/
def value? (d : Draft) (slot : Slot) : Option String := d.values.lookup slot

/-- A flag that counts does so up to this number. -/
def mostCounted : Nat := 255

/-- Gives a slot its value.  It must not have one yet, paths must not be empty, and a node id must
be one. -/
def give (d : Draft) (slot : Slot) (value : String) : Except UsageFault Draft :=
  if (d.value? slot).isSome then .error .conflict
  else
    let given := { d with values := (slot, value) :: d.values }
    match slot with
    | .input | .output | .settings => if value = "" then .error .noValue else .ok given
    | .nodeId =>
      match node? value with
      | some n => .ok { given with nodeId := some n }
      | none => .error .badValue
    | _ => .ok given

/-- Takes what is pending. -/
def settle (d : Draft) : Except UsageFault Draft :=
  match d.pending with
  | none => .ok d
  | some (_, none) => .error .noValue
  | some (slot, some value) => { d with pending := none, awaiting := false }.give slot value

/-- Takes an option with a value attached, or makes it pending. -/
def option (d : Draft) (slot : Slot) (attached : Option String) : Except UsageFault Draft := do
  let d ← d.settle
  match attached with
  | some value => d.give slot value
  | none => .ok { d with pending := some (slot, none), awaiting := true }

/-- Takes a flag. -/
def flag (d : Draft) (f : Flag) : Except UsageFault Draft := do
  let d ← d.settle
  match f with
  | .dump => if d.dump then .error .conflict else .ok { d with dump := true }
  | .verbose => .ok { d with verbose := min (d.verbose + 1) mostCounted }
  | .quiet => .ok { d with quiet := min (d.quiet + 1) mostCounted }
  | .help => .error .help
  | .version => .error .version

/-- Takes a positional argument, or the value of an option that waits for one. -/
def plain (d : Draft) (arg : String) : Except UsageFault Draft :=
  match d.awaiting, d.pending with
  | true, some (slot, _) =>
    .ok { d with pending := some (slot, some arg), awaiting := false }
  | _, _ =>
    match d.positions with
    | [] => .error .unknownArgument
    | slot :: rest => do
      let d ← d.settle
      .ok { d with pending := some (slot, some arg), positions := rest }

/-- Takes an argument that starts with a double dash. -/
def long (d : Draft) (arg : List Char) : Except UsageFault Draft :=
  let (name, rest) := arg.span (· ≠ '=')
  let attached := if rest = [] then none else some (String.ofList (rest.drop 1))
  match long? (String.ofList name), attached with
  | none, _ => .error .unknownArgument
  | some (.valued slot), attached => d.option slot attached
  | some (.flag _), some _ => .error .unneededValue
  | some (.flag f), none => d.flag f

/-- What follows a short option is its value, up to an equals sign before it. -/
def attachedValue : List Char → Option String
  | [] => none
  | '=' :: s => some (String.ofList s)
  | s => some (String.ofList s)

/-- Takes short options that are written together. -/
def short (d : Draft) : List Char → Except UsageFault Draft
  | [] => .ok d
  | c :: s =>
    match short? c with
    | none => .error .unknownArgument
    | some (.valued slot) => d.option slot (attachedValue s)
    | some (.flag f) => do (← d.flag f).short s

/-- Takes an argument behind a double dash. -/
def afterDash (d : Draft) (arg : String) : Except UsageFault Draft :=
  { d with awaiting := false }.plain arg

/-- Takes one argument. -/
def take (d : Draft) (arg : String) : Except UsageFault Draft :=
  if d.literal then d.afterDash arg
  else
    match arg.toList with
    | ['-', '-'] => .ok { d with literal := true }
    | '-' :: '-' :: s => d.long s
    | ['-'] => d.plain arg
    | '-' :: s => d.short s
    | _ => d.plain arg

/-- The arguments, once all are taken. -/
def finish (d : Draft) : Except UsageFault Arguments := do
  let d ← d.settle
  if d.verbose ≠ 0 ∧ d.quiet ≠ 0 then .error .conflict
  else
    match d.value? .input, d.value? .output with
    | some input, some output =>
      .ok
        { input := input
          output := output
          nodeId := d.nodeId
          settings := d.value? .settings
          constantStart := d.value? .constantStart
          modulePath := d.value? .modulePath
          builderName := d.value? .builderName
          memberSeparator := d.value? .memberSeparator
          dump := d.dump
          verbose := d.verbose
          quiet := d.quiet }
    | _, _ => .error .missingArgument

end Draft

/-- What a command line asks for. -/
def ofList (args : List String) : Except UsageFault Arguments := do
  (← args.foldlM Draft.take Draft.start).finish

/-! ### What follows from the arguments -/

/-- The least grave notices that are asked for. -/
def severity (a : Arguments) : Severity :=
  match a.verbose, a.quiet with
  | 0, 0 => .info
  | 1, _ => .debug
  | _, 0 => .trace
  | _, 1 => .warn
  | _, _ => .error

/-- Settings with those that the command line gives in their stead. -/
def override (a : Arguments) (c : Settings) : Settings where
  constantStart := a.constantStart.getD c.constantStart
  modulePath := a.modulePath.getD c.modulePath
  builderName := a.builderName.getD c.builderName
  memberSeparator := a.memberSeparator.getD c.memberSeparator

end Arguments

end DataSheet
