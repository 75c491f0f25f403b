import RadioMesh.Text.HexInput
import RadioMesh.WireError

/-!
# Failures of a command

Why a command did not do what it was asked for, with its wording and the exit
code of the program.
-/

namespace RadioMesh

open Text

namespace ExitCode

def success : Nat := 0

/-- Something that was asked for is not there. -/
def failure : Nat := 1

/-- The arguments do not form a command. -/
def usage : Nat := 2

/-- Access was refused. -/
def permissionDenied : Nat := 50

/-- Bytes or fields do not form a record. -/
def dataInvalid : Nat := 60

/-- The text of an argument has the wrong form. -/
def badArgument : Nat := 64

/-- The surroundings failed in some other way. -/
def surroundings : Nat := 125

end ExitCode

def IoFailure.exitCode : IoFailure → Nat
  | .permissionDenied => ExitCode.permissionDenied
  | .notFound => ExitCode.failure
  | .noSuchFile => ExitCode.failure
  | .worded .permissionDenied _ => ExitCode.permissionDenied
  | .worded .notFound _ => ExitCode.failure
  | _ => ExitCode.surroundings

def WireError.exitCode : WireError → Nat
  | .io failure => failure.exitCode
  | .invalidAddress _ => ExitCode.badArgument
  | .connectionClosed => ExitCode.failure
  | _ => ExitCode.dataInvalid

inductive Failure
  | hexInput (text : String) (flaw : Hex.Flaw)
  | wire (context : String) (error : WireError)
  | opening (path : String) (failure : IoFailure)
  deriving DecidableEq, Repr

namespace Failure

def exitCode : Failure → Nat
  | hexInput _ _ => ExitCode.badArgument
  | wire _ error => error.exitCode
  | opening _ failure => failure.exitCode

/-- The wording of a failure.  Failures of the surroundings speak for
themselves. -/
def message : Failure → String
  | hexInput text flaw => HexInput.message text flaw
  | wire context (.io failure) => context ++ ": " ++ failure.message
  | wire context error => context ++ ": " ++ error.message
  | opening path failure => "failed opening " ++ path ++ ": " ++ failure.message

end Failure

end RadioMesh
