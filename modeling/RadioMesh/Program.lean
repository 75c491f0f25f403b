import RadioMesh.CommandLine.Invocation
import RadioMesh.Conversion

/-!
# The program

What a request does in its surroundings: what is printed, what is logged, which
files are changed and how it ends.
-/

namespace RadioMesh

open Text

structure BuildInfo where
  name : String
  version : String
  target : String
  system : String
  architecture : String
  revision : String
  deriving DecidableEq, Repr

/-- This program.  Where and from what it was built is not recorded. -/
def BuildInfo.current : BuildInfo where
  name := "bluemesh"
  version := "0.1.0"
  target := "unknown"
  system := "linux"
  architecture := "x86_64"
  revision := "unknown"

/-- The surroundings of a request.  The offsets are those of the local time zone
on the first of January and on the first of July.  The standard output may be a
terminal. -/
structure Environment where
  directory : Directory
  stdin : Bytes
  now : Int64
  januaryOffset : Int32
  julyOffset : Int32
  build : BuildInfo
  terminal : Bool := false
  deriving DecidableEq, Repr

/-- Something that is printed: a view in the chosen format, or a line as it is. -/
inductive Item
  | shown (view : View)
  | plain (text : String)
  deriving DecidableEq, Repr

def Item.render (format : OutputFormat) : Item → Bytes
  | .shown view => view.render format
  | .plain text => View.line text

structure Outcome where
  printed : List Item
  failure : Option Failure
  directory : Directory
  events : List Event

namespace Outcome

def ofAttempt (directory : Directory) (attempt : Attempt Failure View) : Outcome :=
  match attempt.result with
  | .ok view => ⟨[.shown view], none, directory, attempt.events⟩
  | .error failure => ⟨[], some failure, directory, attempt.events⟩

def exitCode (outcome : Outcome) : Nat :=
  match outcome.failure with
  | none => ExitCode.success
  | some failure => failure.exitCode

def stdout (outcome : Outcome) (format : OutputFormat) : Bytes :=
  outcome.printed.flatMap (Item.render format)

end Outcome

namespace Environment

/-- The offset of the local time zone without daylight saving, which only ever
adds to it. -/
def standardOffset (environment : Environment) : Int32 :=
  if environment.julyOffset < environment.januaryOffset then environment.julyOffset
  else environment.januaryOffset

end Environment

namespace Program

/-- The full time of a stamp. -/
def reconstruct (environment : Environment) (request : TimeRequest) : Attempt Failure View := do
  let clock : PartialClock := ⟨request.utcOffset.getD environment.standardOffset⟩
  let reference := request.reference.getD environment.now
  let result := clock.reconstruct reference request.stamp
  .report (clock.completedEvent reference request.stamp)
  .report (.timeReconstructed reference clock.utcOffset result)
  pure (.time reference request.stamp clock.utcOffset result)

def versionLine (build : BuildInfo) : String := build.name ++ " " ++ build.version

def versionLines (build : BuildInfo) : Bool → List String
  | false => [versionLine build]
  | true =>
      ["name: " ++ build.name, "version: " ++ build.version, "target: " ++ build.target,
        "target_os: " ++ build.system, "target_arch: " ++ build.architecture,
        "git_hash: " ++ build.revision, "max_frame_data: " ++ decimal Frame.dataLimit]

def run (environment : Environment) : Request → Outcome
  | .decode request => .ofAttempt environment.directory (Conversion.decode request)
  | .encode request =>
      let (directory, attempt) := Conversion.encode environment.directory request
      .ofAttempt directory attempt
  | .dump request =>
      let shown := Capture.dump environment.directory environment.stdin request
      ⟨shown.views.map .shown, shown.failure, environment.directory, shown.events⟩
  | .reconstruct request => .ofAttempt environment.directory (reconstruct environment request)
  | .version extended =>
      ⟨(versionLines environment.build extended).map .plain, none, environment.directory, []⟩

/-- The format that was asked for, or the usual one. -/
def format (invocation : CommandLine.Invocation) (terminal : Bool := false) : OutputFormat :=
  invocation.shared.format.getD (.usual terminal)

/-- What is written to the log and about a failure. -/
def stderr (invocation : CommandLine.Invocation) (outcome : Outcome) : List String :=
  Event.lines (invocation.shared.logFormat.getD .text) (invocation.shared.logLevel.getD .warn)
      outcome.events ++
    match outcome.failure with
    | none => []
    | some failure => ["error: " ++ failure.message]

/-- What is left after the program has ended. -/
structure Ending where
  code : Nat
  stdout : Bytes
  stderr : List String
  directory : Directory

def usage (build : BuildInfo) : List String :=
  ["BLE mesh wire format tool", "",
    "Usage: " ++ build.name ++ " [OPTIONS] <COMMAND>", "",
    "  decode KIND HEX [--strict]",
    "  encode frame|hub|config|tracked|command [FIELDS]",
    "  dump FILE [--hub] [--count N]",
    "  reconstruct --partial N [--reference SECONDS] [--utc-offset SECONDS]",
    "  version [--extended]", "",
    "  --format json|table|pretty|raw",
    "  --log-format text|json",
    "  --log-level error|warn|info|debug|trace"]

def complaint : CommandLine.UsageError → String
  | .invalidValue name => "invalid or missing value for " ++ name
  | .refusedValue name => "value of " ++ name ++ " is no number in its range"
  | .unknownArgument word => "unexpected argument " ++ Quoted.string word
  | .unknownCommand word => "unrecognized command " ++ Quoted.string word
  | .missingArguments => "required arguments are missing"
  | .givenTwice name => name ++ " cannot be used multiple times"
  | .surplusValue name => name ++ " takes no value"
  | .noArguments => "no command given"
  | .missingCommand => "a command is required"
  | .helpRequested => "help"
  | .versionRequested => "version"

/-- How the program ends when its arguments form no request. -/
def refuse (environment : Environment) : CommandLine.UsageError → Ending
  | .helpRequested =>
      ⟨ExitCode.success, (usage environment.build).flatMap View.line, [], environment.directory⟩
  | .versionRequested =>
      ⟨ExitCode.success, View.line (versionLine environment.build), [], environment.directory⟩
  | .noArguments => ⟨ExitCode.usage, [], usage environment.build, environment.directory⟩
  | error => ⟨ExitCode.usage, [], ["error: " ++ complaint error], environment.directory⟩

/-- Runs the program with the words of its command line. -/
def execute (environment : Environment) (words : List String) : Ending :=
  match CommandLine.read words with
  | .error error => refuse environment error
  | .ok invocation =>
      let outcome := run environment invocation.request
      ⟨outcome.exitCode, outcome.stdout (format invocation environment.terminal),
        stderr invocation outcome, outcome.directory⟩

end Program

end RadioMesh
