import Rebuild.Arguments
import Rebuild.Build
import Rebuild.Settings

/-!
# The program

`Program.run` is the whole program: it reads the arguments and the settings, builds, and prints the listing of what the
request needed, or, in a dry run, what would be done. A failure prints nothing but its messages, and after them what the
command that failed wrote to its error stream.
-/

namespace Rebuild.Program

/-- What the program comes to: its exit code, what it prints, and the world after it. -/
structure Answer (σ : Type u) where
  code : Nat
  stdout : String
  stderr : String
  world : σ

/-- The name and the version of the program. -/
def versionText : String := "ruler 0.1.0\n"

/-- How the program is used. -/
def helpText : String :=
  "A straight-forward, general-purpose build tool.\n\n" ++
  "Usage: ruler [--rules FILE]... [--log-level LEVEL] build [--dry-run] [TARGET]\n\n" ++
  "  -r, --rules FILE       a rule file; may be repeated\n" ++
  "      --log-level LEVEL  error, warn, info, debug or trace\n" ++
  "      --dry-run          decide what to build, but run nothing\n" ++
  "  -h, --help             print this\n" ++
  "  -V, --version          print the version\n"

/-- What the program prints if nothing is to be built. -/
def ofStop {σ : Type u} (w : σ) (stop : Arguments.Stop) : Answer σ :=
  match stop with
  | .help => ⟨stop.exitCode, helpText, "", w⟩
  | .version => ⟨stop.exitCode, versionText, "", w⟩
  | .usage => ⟨stop.exitCode, "", helpText, w⟩

/-- What the program prints if it fails: the messages, and the lines of a command's error stream. -/
def errorText (messages : List String) (commandStderr : String) : String :=
  let message := ": ".intercalate messages
  s!"ruler error: {message}\n" ++ String.join ((Text.lines commandStderr).map fun line => s!"  | {line}\n")

/-- What the program prints if a build succeeds. -/
def outcomeText (dryRun : Bool) (outcome : Outcome) : String :=
  if dryRun then outcome.report.dryRunText else listingText outcome.listing

/-- The project that the program builds: the one in the working directory. -/
def root : String := "."

/-- The request that arguments and settings make. -/
def request (args : Arguments) (settings : Settings) : Request :=
  ⟨args.target, settings.rulePaths args.rules root, args.dryRun⟩

/-- Builds what the arguments ask for. -/
def runBuild {σ : Type u} [FileView σ] (runner : Runner σ) (args : Arguments) (w : σ) : Answer σ :=
  match Settings.load w root with
  | .error fault => ⟨1, "", errorText fault.messages "", w⟩
  | .ok settings =>
    let run := build runner root (request args settings) w
    match run.result with
    | .error failure => ⟨1, "", errorText failure.messages failure.stderr, run.world⟩
    | .ok outcome => ⟨0, outcomeText args.dryRun outcome, "", run.world⟩

/-- Runs the program with its arguments. -/
def run {σ : Type u} [FileView σ] (runner : Runner σ) (args : List String) (w : σ) : Answer σ :=
  match Arguments.read args with
  | .error stop => ofStop w stop
  | .ok args => runBuild runner args w

end Rebuild.Program
