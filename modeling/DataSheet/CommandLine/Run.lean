/-
**Runs of the command line.**

A run takes its arguments, reads settings if it is told where, turns a data sheet into declarations,
and ends with an exit code.

Main definitions:

* `RunFault` — what can end a run;
* `Outcome` — what a run shows;
* `run` — the run on a file system.
-/

import DataSheet.CommandLine.Arguments
import DataSheet.Generate
import DataSheet.Json.Settings
import DataSheet.Text.Control

set_option relaxedAutoImplicit false
set_option autoImplicit false

namespace DataSheet

/-- What can end a run once its arguments are taken. -/
inductive RunFault
  | sheet (f : Fault)
  | settingsFile (f : FileFault)
  | settingsText (why : Json.Unfit)
  deriving DecidableEq

/-- The wording of what ended a run. -/
def RunFault.message : RunFault → String
  | sheet f => f.message
  | settingsFile f => f.text
  | settingsText why => Settings.unfitText why

/-- What a run shows: its exit code, its output, and the lines that its notices take. -/
structure Outcome where
  exitCode : UInt32
  output : String
  notices : List String
  deriving DecidableEq

namespace Outcome

/-- The name and the version of the program. -/
def versionText : String := "canopen-eds 0.1.0\n"

/-- What the program can be asked for. -/
def helpText : String :=
  String.intercalate "\n"
    ["Generate Rust object dictionary declarations from a CANopen EDS file",
      "",
      "Usage: canopen-eds [OPTIONS] <INPUT> <OUTPUT>",
      "",
      "Arguments:",
      "  <INPUT>   EDS file to read",
      "  <OUTPUT>  Rust source file to write (its directory must exist)",
      "",
      "Options:",
      "  -n, --node-id <NODE_ID>",
      "          Node ID added to $NODEID-relative values such as COB-IDs",
      "  -c, --config <CONFIG>",
      "          JSON file with emitter settings; the options below override it",
      "      --prefix <PREFIX>",
      "          Prefix of every generated constant",
      "      --module-path <MODULE_PATH>",
      "          Module the generated use line imports from",
      "      --builder-name <BUILDER_NAME>",
      "          Name of the generated builder function",
      "      --member-separator <MEMBER_SEPARATOR>",
      "          Text placed between a Record or Array name and a member name",
      "      --dump-json",
      "          Print the parsed object dictionary as JSON to stdout",
      "  -v, --verbose...",
      "          More log output (-v debug, -vv trace)",
      "  -q, --quiet...",
      "          Less log output (-q warnings only, -qq errors only)",
      "  -h, --help",
      "          Print help",
      "  -V, --version",
      "          Print version",
      ""]

/-- What comes of a command line without arguments to go by. -/
def ofUsage : UsageFault → Outcome
  | .help => ⟨0, helpText, []⟩
  | .version => ⟨0, versionText, []⟩
  | _ => ⟨2, "", []⟩

/-- What stands between two lines of one notice: the second is indented. -/
def lineBreak : List Char := "\n    ".toList

/-- The lines that a notice takes.  Nothing in them steers the terminal. -/
def linesOf (notice : String) : List String :=
  let indented := lineBreak.intercalate (notice.toList.splitOn '\n')
  ((Text.Control.plain indented).splitOn '\n').map String.ofList

/-- The lines of the notices that the arguments ask for. -/
def linesFor (a : Arguments) (ns : List Notice) : List String :=
  (Notice.upTo a.severity ns).flatMap linesOf

/-- What comes of a run.  The last notice of a failed run tells what ended it. -/
def ofReport (a : Arguments) (r : Report Notice RunFault Dictionary) : Outcome :=
  match r.outcome with
  | .ok d => ⟨0, if a.dump then d.dump ++ "\n" else "", linesFor a r.notices⟩
  | .error f => ⟨1, "", linesFor a (r.notices ++ [.failed f.message])⟩

end Outcome

variable {m : Type → Type} [Monad m] [FileSystem m]

/-- The settings of a run before the command line has its say. -/
def loadSettings (a : Arguments) : m (Report Notice RunFault Settings) := do
  match a.settings with
  | none => return pure .standard
  | some path =>
    let read ← FileSystem.read path
    return do
      .note (.settingsLoading path)
      match read with
      | .error f => .fail (.settingsFile f)
      | .ok text =>
        match Settings.ofJson text with
        | .error why => .fail (.settingsText why)
        | .ok c => pure c

/-- The work that the arguments ask for. -/
def work (a : Arguments) : m (Report Notice RunFault Dictionary) := do
  let loaded ← loadSettings a
  match loaded.outcome with
  | .error f => return ⟨loaded.notices, .error f⟩
  | .ok c =>
    let r ← generate a.input a.output a.nodeId (a.override c)
    return ⟨loaded.notices ++ r.notices, r.outcome.mapError .sheet⟩

/-- The run of a command line. -/
def run (args : List String) : m Outcome := do
  match Arguments.ofList args with
  | .error f => return .ofUsage f
  | .ok a => return .ofReport a (← work a)

end DataSheet
