import RadioMesh.Proofs.CommandLine.Words

/-!
# Decoding on request

What a request does is what the program tells of it: the views are printed in the chosen
format, and a failure gives the exit code and the last line.  So the program that is asked
to decode bytes prints their view and nothing else, or it prints nothing and names the error.
-/

namespace RadioMesh

open Text

namespace Conversion

theorem result_viewOf_hub (policy : LengthPolicy) (bytes : Bytes) :
    (viewOf policy bytes .hub).result =
      (HubMessage.decode policy bytes).result.bind fun message =>
        message.body.map (View.hub message) := by
  rw [viewOf, Attempt.result_bind]
  congr 1
  funext message
  rw [Attempt.result_bind, Attempt.ofExcept]
  cases message.body <;> rfl

theorem result_decode (kind : RecordKind) (policy : LengthPolicy) (bytes : Bytes) :
    (decode ⟨kind, Hex.text bytes, policy⟩).result =
      (viewOf policy bytes kind).result.mapError (.wire "decode failed") := by
  have parsed : bytesOf (Hex.text bytes) = .ok bytes := bytesOf_printed (.inl rfl) bytes
  rw [decode, parsed]
  rfl

end Conversion

namespace Program

/-- The program has printed these views and nothing else, and ended with this failure or
with none. -/
structure Ending.Reports (ending : Ending) (format : OutputFormat) (views : List View)
    (failure : Option Failure) : Prop where
  stdout : ending.stdout = views.flatMap fun view => view.render format
  code : ending.code = failure.elim ExitCode.success Failure.exitCode
  stderr : ∀ reason, failure = some reason →
    ending.stderr.getLast? = some ("error: " ++ reason.message)

section

variable {environment : Environment} {words : List String}
  {invocation : CommandLine.Invocation}

theorem reports_of_run {views : List View} {failure : Option Failure}
    (understood : CommandLine.read words = .ok invocation)
    (printed : (run environment invocation.request).printed = views.map .shown)
    (failed : (run environment invocation.request).failure = failure) :
    (execute environment words).Reports (format invocation environment.terminal) views failure := by
  simp only [execute, understood]
  generalize run environment invocation.request = outcome at printed failed ⊢
  subst failed
  constructor
  case stdout =>
    rw [Outcome.stdout, printed, List.flatMap_map]
    rfl
  case code =>
    rw [Outcome.exitCode]
    cases outcome.failure <;> rfl
  case stderr =>
    intro reason failed
    simp [stderr, failed]

variable {directory : Directory} {attempt : Attempt Failure View}

theorem reports_of_ok {view : View} (understood : CommandLine.read words = .ok invocation)
    (ran : run environment invocation.request = .ofAttempt directory attempt)
    (shown : attempt.result = .ok view) :
    (execute environment words).Reports (format invocation environment.terminal) [view] none := by
  apply reports_of_run understood
  · rw [ran, Outcome.ofAttempt, shown]
    rfl
  · rw [ran, Outcome.ofAttempt, shown]

theorem reports_of_error {failure : Failure}
    (understood : CommandLine.read words = .ok invocation)
    (ran : run environment invocation.request = .ofAttempt directory attempt)
    (failed : attempt.result = .error failure) :
    (execute environment words).Reports (format invocation environment.terminal) []
      (some failure) := by
  apply reports_of_run understood
  · rw [ran, Outcome.ofAttempt, failed]
    rfl
  · rw [ran, Outcome.ofAttempt, failed]

end

theorem run_decode (environment : Environment) (request : DecodeRequest) :
    run environment (.decode request) =
      .ofAttempt environment.directory (Conversion.decode request) := rfl

theorem run_encode (environment : Environment) (request : EncodeRequest) :
    run environment (.encode request) =
      .ofAttempt (Conversion.encode environment.directory request).1
        (Conversion.encode environment.directory request).2 := rfl

/-- What becomes of asking the program to decode some bytes as a kind of record. -/
def decoded (environment : Environment) (kind : RecordKind) (policy : LengthPolicy)
    (format : OutputFormat) (bytes : Bytes) : Ending :=
  execute environment (CommandLine.decodeWords kind policy format bytes)

section

variable {environment : Environment} {kind : RecordKind} {policy : LengthPolicy}
  {format : OutputFormat} {bytes : Bytes}

theorem decoded_of_view {view : View}
    (viewed : (Conversion.viewOf policy bytes kind).result = .ok view) :
    (decoded environment kind policy format bytes).Reports format [view] none := by
  have shown := Conversion.result_decode kind policy bytes
  rw [viewed] at shown
  exact reports_of_ok (CommandLine.read_decodeWords kind policy format bytes)
    (run_decode environment _) shown

theorem decoded_of_error {error : WireError}
    (refused : (Conversion.viewOf policy bytes kind).result = .error error) :
    (decoded environment kind policy format bytes).Reports format []
      (some (.wire "decode failed" error)) := by
  have failed := Conversion.result_decode kind policy bytes
  rw [refused] at failed
  exact reports_of_error (CommandLine.read_decodeWords kind policy format bytes)
    (run_decode environment _) failed

end

end Program

end RadioMesh
