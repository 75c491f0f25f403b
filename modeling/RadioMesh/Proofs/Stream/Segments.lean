import RadioMesh.Proofs.Stream.Reading
import Mathlib.Logic.ExistsUnique
import Mathlib.Tactic.ByContra

/-!
# The segments of a stream

The outcomes of the reads of a stream deliver some segments of bytes, which end
where a read delivers nothing.  Without looking at the chunks in which a segment
arrives, its cutting says what a reader makes of it: the frames of its whole
envelopes and then a clean end, or a lost connection if a tail is left over.  A
reader gives exactly these results, and between them each failure of the source
once.
-/

namespace RadioMesh

abbrev FrameResult := Except WireError (Option Frame)

namespace FrameResult

/-- The failure of the source that a result reports. -/
def ioFailure? : FrameResult → Option IoFailure
  | .error (.io failure) => some failure
  | _ => none

/-- The failures of the source that some results report. -/
def ioFailures (results : List FrameResult) : List IoFailure := results.filterMap ioFailure?

/-- Some results without those that report a failure of the source. -/
def lasting (results : List FrameResult) : List FrameResult :=
  results.filter fun result => (ioFailure? result).isNone

theorem length_lasting_add_length_ioFailures (results : List FrameResult) :
    (lasting results).length + (ioFailures results).length = results.length := by
  induction results with
  | nil => rfl
  | cons result results ih =>
      cases reported : ioFailure? result <;>
        simp only [lasting, ioFailures, List.filter_cons, List.filterMap_cons, reported,
          Option.isNone_none, Option.isNone_some, Bool.false_eq_true, if_true, if_false,
          List.length_cons] at ih ⊢ <;>
        omega

end FrameResult

namespace ReadOutcome

/-- The failure that a reader reports: any but an interruption. -/
def reportedFailure? : ReadOutcome → Option IoFailure
  | .delivered _ => none
  | .failed failure => if failure = .interrupted then none else some failure

/-- The failures among some outcomes that a reader reports. -/
def reportedFailures (outcomes : List ReadOutcome) : List IoFailure :=
  outcomes.filterMap reportedFailure?

/-- The delivered bytes, cut at every read that delivers nothing.  The first
segment has already begun with `started`, and the last ends with the outcomes. -/
def segments (started : Bytes) : List ReadOutcome → List Bytes
  | [] => [started]
  | outcome :: rest =>
      if outcome = .delivered [] then started :: segments [] rest
      else segments (started ++ outcome.bytes) rest

end ReadOutcome

/-- The end of a segment, which is clean if no tail is left over. -/
def endResult (tail : Bytes) : FrameResult :=
  if tail = [] then .ok none else .error .connectionClosed

/-- What a segment of a stream holds: the frames of its whole envelopes, and then
its end. -/
def segmentResults (segment : Bytes) : List FrameResult :=
  (Envelope.frames segment).map (fun frame => .ok (some frame)) ++
    [endResult (Envelope.tail segment)]

/-- The results to which a reader with a buffer and some outcomes ahead leads. -/
def owedResults (buffer : Bytes) (outcomes : List ReadOutcome) : List FrameResult :=
  (ReadOutcome.segments buffer outcomes).flatMap segmentResults

theorem segmentResults_encode_append {frame : Frame} (consistent : frame.isConsistent = true)
    (rest : Bytes) :
    segmentResults (frame.encode ++ rest) = .ok (some frame) :: segmentResults rest := by
  simp [segmentResults, Envelope.frames_encode_append consistent,
    Envelope.tail_encode_append consistent]

theorem segmentResults_of_split?_eq_none {segment : Bytes}
    (missing : Envelope.split? segment = none) :
    segmentResults segment = [endResult segment] := by
  simp [segmentResults, Envelope.frames_of_split?_eq_none missing,
    Envelope.tail_of_split?_eq_none missing]

namespace ReadOutcome

theorem segments_append_started (front started : Bytes) (outcomes : List ReadOutcome) :
    ∃ first others, segments started outcomes = first :: others ∧
      segments (front ++ started) outcomes = (front ++ first) :: others := by
  induction outcomes generalizing started with
  | nil => exact ⟨started, [], rfl, rfl⟩
  | cons outcome outcomes ih =>
      by_cases ended : outcome = .delivered []
      · exact ⟨started, segments [] outcomes, by simp [segments, ended], by simp [segments, ended]⟩
      · simpa [segments, ended] using ih (started ++ outcome.bytes)

/-- A read of a list that does not end it takes its first outcome. -/
theorem eq_cons_of_read {outcomes later : List ReadOutcome} {outcome : ReadOutcome}
    (taken : ByteSource.read outcomes = (outcome, later)) (going : outcome ≠ .delivered []) :
    outcomes = outcome :: later := by
  cases outcomes with
  | nil =>
      cases taken
      exact absurd rfl going
  | cons first rest =>
      cases taken
      rfl

theorem ne_delivered_nil_of_isQuiet {outcome : ReadOutcome} (quiet : outcome.isQuiet = true) :
    outcome ≠ .delivered [] := by
  rintro rfl
  cases quiet

theorem reportedFailure?_of_isQuiet {outcome : ReadOutcome} (quiet : outcome.isQuiet = true) :
    reportedFailure? outcome = none := by
  cases outcome with
  | delivered chunk => rfl
  | failed failure =>
      obtain rfl : failure = .interrupted := by simpa [isQuiet] using quiet
      rfl

/-- Quiet reads move bytes into the first segment and report nothing. -/
theorem segments_of_reads {outcomes quiet later : List ReadOutcome}
    (reads : Reads outcomes quiet later) (allQuiet : ∀ outcome ∈ quiet, outcome.isQuiet = true)
    (started : Bytes) :
    segments started outcomes = segments (started ++ quiet.flatMap bytes) later ∧
      reportedFailures outcomes = reportedFailures later := by
  induction reads generalizing started with
  | done outcomes => simp
  | @next outcomes middle later outcome quiet taken reads ih =>
      have going := ne_delivered_nil_of_isQuiet (allQuiet outcome List.mem_cons_self)
      have silent := reportedFailure?_of_isQuiet (allQuiet outcome List.mem_cons_self)
      obtain rfl := eq_cons_of_read taken going
      obtain ⟨cut, failures⟩ :=
        ih (fun other member => allQuiet other (List.mem_cons_of_mem _ member))
          (started ++ outcome.bytes)
      constructor
      · rw [segments, if_neg going, cut, List.flatMap_cons, List.append_assoc]
      · rw [← failures, reportedFailures, List.filterMap_cons_none silent, reportedFailures]

theorem suffix_of_read {outcomes later : List ReadOutcome} {outcome : ReadOutcome}
    (taken : ByteSource.read outcomes = (outcome, later)) : later <:+ outcomes := by
  cases outcomes with
  | nil =>
      cases taken
      exact List.suffix_refl []
  | cons first rest =>
      cases taken
      exact List.suffix_cons outcome later

theorem suffix_of_reads {outcomes taken later : List ReadOutcome}
    (reads : Reads outcomes taken later) : later <:+ outcomes := by
  induction reads with
  | done outcomes => exact List.suffix_refl outcomes
  | next taken reads ih => exact ih.trans (suffix_of_read taken)

end ReadOutcome

def ReadRun.results {σ : Type} (run : ReadRun σ) : List FrameResult :=
  run.attempts.map Attempt.result

namespace FrameReader

open ReadOutcome FrameResult

theorem owedResults_encode_append {frame : Frame} (consistent : frame.isConsistent = true)
    (rest : Bytes) (outcomes : List ReadOutcome) :
    owedResults (frame.encode ++ rest) outcomes =
      .ok (some frame) :: owedResults rest outcomes := by
  obtain ⟨first, others, short, long⟩ := segments_append_started frame.encode rest outcomes
  simp [owedResults, short, long, segmentResults_encode_append consistent]

/-- What one call takes from the results ahead and from the failures ahead. -/
inductive Takes (buffer : Bytes) (outcomes : List ReadOutcome) :
    FrameResult → Bytes → List ReadOutcome → Prop where
  /-- The call reports a failure and takes no result. -/
  | failure {failure : IoFailure} {rest : Bytes} {later : List ReadOutcome} :
      owedResults buffer outcomes = owedResults rest later →
      reportedFailures outcomes = failure :: reportedFailures later →
      Takes buffer outcomes (.error (.io failure)) rest later
  /-- The call gives the next result. -/
  | result {result : FrameResult} {rest : Bytes} {later : List ReadOutcome} :
      ioFailure? result = none →
      owedResults buffer outcomes = result :: owedResults rest later →
      reportedFailures outcomes = reportedFailures later →
      Takes buffer outcomes result rest later
  /-- The call gives the last result, after which clean ends follow. -/
  | last {result : FrameResult} {rest : Bytes} :
      ioFailure? result = none →
      owedResults buffer outcomes ++ [.ok none] = result :: owedResults rest [] →
      reportedFailures outcomes = [] →
      Takes buffer outcomes result rest []

private theorem Takes.of_same {buffer earlier rest : Bytes}
    {outcomes before later : List ReadOutcome} {result : FrameResult}
    (owed : owedResults earlier before = owedResults buffer outcomes)
    (failures : reportedFailures before = reportedFailures outcomes)
    (takes : Takes buffer outcomes result rest later) : Takes earlier before result rest later := by
  cases takes with
  | failure same taken => exact .failure (owed.trans same) (failures.trans taken)
  | result plain next taken => exact .result plain (owed.trans next) (failures.trans taken)
  | last plain next taken => exact .last plain (by rw [owed, next]) (failures.trans taken)

/-- The end of a segment gives its last result, whether the outcomes say so or
there are none left. -/
private theorem takes_of_ended {buffer : Bytes} {outcomes later : List ReadOutcome}
    (ended : ByteSource.read outcomes = (.delivered [], later))
    (missing : Envelope.split? buffer = none) :
    Takes buffer outcomes (endResult buffer) [] later := by
  have single := segmentResults_of_split?_eq_none missing
  have plain : ioFailure? (endResult buffer) = none := by
    unfold endResult
    split <;> rfl
  cases outcomes with
  | nil =>
      cases ended
      refine .last plain ?_ rfl
      have clean : segmentResults [] = [endResult []] := segmentResults_of_split?_eq_none rfl
      simp [owedResults, segments, single, clean, endResult]
  | cons outcome outcomes =>
      cases ended
      refine .result plain ?_ rfl
      simp [owedResults, segments, single]

theorem takes_readFrame (reader : FrameReader) (outcomes : List ReadOutcome) :
    Takes reader.buffer outcomes (reader.readFrame outcomes).attempt.result
      (reader.readFrame outcomes).reader.buffer (reader.readFrame outcomes).source := by
  obtain ⟨quiet, middle, reads, allQuiet, finishes⟩ := readFrame_gathers reader outcomes
  obtain ⟨cut, failures⟩ := segments_of_reads reads allQuiet reader.buffer
  have owed : owedResults reader.buffer outcomes =
      owedResults (reader.buffer ++ quiet.flatMap bytes) middle := by
    rw [owedResults, cut, owedResults]
  apply Takes.of_same owed failures
  generalize reader.readFrame outcomes = call at finishes
  cases finishes with
  | frame consistent content =>
      rw [buffer_gather] at content
      rw [content]
      exact .result rfl (owedResults_encode_append consistent _ _) rfl
  | clean ended empty =>
      rw [buffer_gather] at empty
      have missing : Envelope.split? ([] : Bytes) = none := rfl
      have taken := takes_of_ended ended missing
      simpa [gather, empty, endResult] using taken
  | cutOff ended nonempty missing =>
      rw [buffer_gather] at nonempty missing
      have taken := takes_of_ended ended missing
      rwa [endResult, if_neg nonempty] at taken
  | @failed failure next failed going =>
      obtain rfl := eq_cons_of_read failed (by simp)
      refine .failure ?_ ?_
      · simp [owedResults, segments, ReadOutcome.bytes]
      · simp [reportedFailures, reportedFailure?, going]

theorem suffix_readFrame (reader : FrameReader) (outcomes : List ReadOutcome) :
    (reader.readFrame outcomes).source <:+ outcomes := by
  obtain ⟨quiet, middle, reads, _, finishes⟩ := readFrame_gathers reader outcomes
  have before := suffix_of_reads reads
  generalize reader.readFrame outcomes = call at finishes
  cases finishes with
  | frame => exact before
  | clean ended => exact (suffix_of_read ended).trans before
  | cutOff ended => exact (suffix_of_read ended).trans before
  | failed failed => exact (suffix_of_read failed).trans before

theorem suffix_calls (reader : FrameReader) (outcomes : List ReadOutcome) (count : Nat) :
    (reader.calls outcomes count).source <:+ outcomes := by
  induction count generalizing reader outcomes with
  | zero => exact List.suffix_refl outcomes
  | succ count ih => exact (ih _ _).trans (suffix_readFrame reader outcomes)

/-- A run has given the results ahead of it as far as it went, and has reported the
failures that it has left behind. -/
structure Accounts (buffer : Bytes) (outcomes : List ReadOutcome)
    (run : ReadRun (List ReadOutcome)) : Prop where
  failures : reportedFailures outcomes =
    ioFailures run.results ++ reportedFailures run.source
  given : lasting run.results <+:
    owedResults buffer outcomes ++ List.replicate run.results.length (.ok none)
  ahead : run.source ≠ [] →
    owedResults buffer outcomes =
      lasting run.results ++ owedResults run.reader.buffer run.source

private theorem prefix_append_replicate_succ {given owed : List FrameResult} {count : Nat}
    (smaller : given <+: owed ++ List.replicate count (.ok none)) :
    given <+: owed ++ List.replicate (count + 1) (.ok none) := by
  rw [List.replicate_succ', ← List.append_assoc]
  exact smaller.trans (List.prefix_append _ _)

theorem accounts_calls (reader : FrameReader) (outcomes : List ReadOutcome) (count : Nat) :
    Accounts reader.buffer outcomes (reader.calls outcomes count) := by
  induction count generalizing reader outcomes with
  | zero =>
      refine ⟨rfl, ?_, fun _ => rfl⟩
      exact List.nil_prefix
  | succ count ih =>
      have takes := takes_readFrame reader outcomes
      have rest := ih (reader.readFrame outcomes).reader (reader.readFrame outcomes).source
      have remaining := suffix_calls (reader.readFrame outcomes).reader
        (reader.readFrame outcomes).source count
      simp only [calls]
      generalize reader.readFrame outcomes = call at takes rest remaining ⊢
      obtain ⟨⟨result, events⟩, next, later⟩ := call
      simp only at takes rest remaining ⊢
      generalize next.calls later count = run at rest remaining ⊢
      obtain ⟨config, left⟩ := next
      -- A call passes on a failure and owes as much as before, or it takes the first result
      -- that is owed, or nothing was owed any more but a clean end.
      cases takes with
      | @failure failure _ _ same taken =>
          refine ⟨?_, ?_, ?_⟩
          · rw [taken, rest.failures]
            rfl
          · rw [same]
            exact prefix_append_replicate_succ rest.given
          · intro more
            rw [same]
            exact rest.ahead more
      | result plain owed taken =>
          refine ⟨?_, ?_, ?_⟩
          · rw [taken, rest.failures]
            simp [ReadRun.results, ioFailures, plain]
          · rw [owed]
            simpa [ReadRun.results, lasting, plain] using
              prefix_append_replicate_succ rest.given
          · intro more
            rw [owed, rest.ahead more]
            simp [ReadRun.results, lasting, plain]
      | last plain owed taken =>
          refine ⟨?_, ?_, ?_⟩
          · have nothing : [] = ioFailures run.results ++ reportedFailures run.source :=
              rest.failures
            refine (taken.trans nothing).trans ?_
            simp [ReadRun.results, ioFailures, plain]
          · simp only [ReadRun.results, List.map_cons, List.length_cons, List.replicate_succ]
            rw [List.append_cons, owed]
            simpa [ReadRun.results, lasting, plain] using rest.given
          · intro more
            exact absurd (List.suffix_nil.mp remaining) more

theorem length_results_calls (reader : FrameReader) (outcomes : List ReadOutcome)
    (count : Nat) : (reader.calls outcomes count).results.length = count := by
  induction count generalizing reader outcomes with
  | zero => rfl
  | succ count ih =>
      simpa [calls, ReadRun.results] using
        ih (reader.readFrame outcomes).reader (reader.readFrame outcomes).source

private theorem step_append (reader : FrameReader) {outcomes : List ReadOutcome}
    (more : outcomes ≠ []) (later : List ReadOutcome) :
    reader.step (outcomes ++ later) =
      match reader.step outcomes with
      | .finished call => .finished { call with source := call.source ++ later }
      | .gathered next rest => .gathered next (rest ++ later) := by
  cases outcomes with
  | nil => exact absurd rfl more
  | cons outcome rest =>
      have taken : ByteSource.read (outcome :: rest) = (outcome, rest) := rfl
      have takenLonger : ByteSource.read ((outcome :: rest) ++ later) =
          (outcome, rest ++ later) := rfl
      unfold step
      rw [taken, takenLonger]
      cases Envelope.split? reader.buffer with
      | some parts => rfl
      | none =>
          match outcome with
          | .delivered [] =>
              by_cases empty : reader.buffer.isEmpty = true
              · simp only [if_pos empty]
              · simp only [if_neg empty]
          | .delivered (byte :: chunk) => rfl
          | .failed failure => cases failure <;> rfl

/-- As long as outcomes are left, further ones make no difference to a call. -/
theorem readFrame_append {reader : FrameReader} {outcomes : List ReadOutcome}
    (left : (reader.readFrame outcomes).source ≠ []) (later : List ReadOutcome) :
    reader.readFrame (outcomes ++ later) =
      { reader.readFrame outcomes with
        source := (reader.readFrame outcomes).source ++ later } := by
  have more : outcomes ≠ [] := by
    rintro rfl
    exact left (List.suffix_nil.mp (suffix_readFrame reader []))
  have longer := step_append reader more later
  fun_induction readFrame reader outcomes with
  | case1 reader outcomes call outcome =>
      rw [outcome] at longer
      rw [readFrame]
      split
      · next other same =>
          rw [longer] at same
          cases same
          rfl
      · next other rest same =>
          rw [longer] at same
          cases same
  | case2 reader outcomes next rest outcome ih =>
      have further : rest ≠ [] := by
        rintro rfl
        exact left (List.suffix_nil.mp (suffix_readFrame next []))
      rw [outcome] at longer
      rw [readFrame]
      split
      · next other same =>
          rw [longer] at same
          cases same
      · next other remaining same =>
          rw [longer] at same
          cases same
          exact ih left further (step_append _ further later)

theorem calls_append {reader : FrameReader} {outcomes : List ReadOutcome} {count : Nat}
    (left : (reader.calls outcomes count).source ≠ []) (later : List ReadOutcome) :
    reader.calls (outcomes ++ later) count =
      { reader.calls outcomes count with
        source := (reader.calls outcomes count).source ++ later } := by
  induction count generalizing reader outcomes with
  | zero => rfl
  | succ count ih =>
      have first : (reader.readFrame outcomes).source ≠ [] := by
        intro nothing
        have remaining := suffix_calls (reader.readFrame outcomes).reader
          (reader.readFrame outcomes).source count
        rw [nothing] at remaining
        exact left (List.suffix_nil.mp (by simpa [calls, nothing] using remaining))
      simp only [calls, readFrame_append first later]
      rw [ih left]

theorem owedResults_ne_nil (buffer : Bytes) (outcomes : List ReadOutcome) :
    owedResults buffer outcomes ≠ [] := by
  obtain ⟨first, others, whole, _⟩ := segments_append_started [] buffer outcomes
  simp [owedResults, whole, segmentResults]

/-- Equally many results from equally many segments are equal: neither the chunks,
nor interruptions, nor the policy, nor the limit make a difference. -/
theorem lasting_eq_of_segments_eq {config other : StreamConfig}
    {outcomes others : List ReadOutcome} {count number : Nat}
    (same : segments [] others = segments [] outcomes)
    (size : (lasting ((fresh other).calls others number).results).length =
      (lasting ((fresh config).calls outcomes count).results).length) :
    lasting ((fresh other).calls others number).results =
      lasting ((fresh config).calls outcomes count).results := by
  have first := (accounts_calls (fresh config) outcomes count).given
  have second := (accounts_calls (fresh other) others number).given
  have owed : owedResults (fresh other).buffer others =
      owedResults (fresh config).buffer outcomes := by
    simp only [owedResults, fresh, same]
  rw [length_results_calls] at first second
  rw [owed] at second
  have extend : ∀ {given : List FrameResult} {count : Nat},
      given <+: owedResults (fresh config).buffer outcomes ++ List.replicate count (.ok none) →
      ∀ extra, given <+: owedResults (fresh config).buffer outcomes ++
        List.replicate (count + extra) (.ok none) := by
    intro given count smaller extra
    induction extra with
    | zero => exact smaller
    | succ extra ih => exact prefix_append_replicate_succ ih
  have longer := extend second count
  rw [Nat.add_comm] at longer
  have part := List.prefix_of_prefix_length_le longer (extend first number) (Nat.le_of_eq size)
  exact part.eq_of_length size

/-- The calls of a fresh reader give what the segments of the stream hold, with the
failures of the source between.  A stream has one cutting, and a segment holds the
frames that travel as its whole envelopes and then its end.  After enough calls
nothing is left ahead, and while something is, later outcomes make no difference. -/
theorem calls_give_segments (config : StreamConfig) (outcomes : List ReadOutcome)
    (count : Nat) :
    (∀ segment : Bytes, ∃! parts : List Bytes × Bytes,
      Envelope.Cutting segment parts.1 parts.2) ∧
    (∀ (segment : Bytes) (envelopes : List Bytes) (tail : Bytes),
      Envelope.Cutting segment envelopes tail →
        ∃ frames : List Frame, frames.map Frame.encode = envelopes ∧
          (∀ frame ∈ frames, frame.isConsistent = true) ∧
          segmentResults segment = frames.map (fun frame => .ok (some frame)) ++ [endResult tail]) ∧
    let run := (fresh config).calls outcomes count
    let owed := (segments [] outcomes).flatMap segmentResults
    lasting run.results =
      (owed ++ List.replicate count (Except.ok none)).take
        (count - (ioFailures run.results).length) ∧
    reportedFailures outcomes = ioFailures run.results ++ reportedFailures run.source ∧
    (owed.length + (reportedFailures outcomes).length ≤ count → run.source = []) ∧
    (run.source ≠ [] → ∀ later,
      ((fresh config).calls (outcomes ++ later) count).results = run.results) ∧
    (∀ (other : StreamConfig) (others : List ReadOutcome) (number : Nat),
      segments [] others = segments [] outcomes →
      (lasting ((fresh other).calls others number).results).length =
        (lasting run.results).length →
      lasting ((fresh other).calls others number).results = lasting run.results) := by
  have accounts := accounts_calls (fresh config) outcomes count
  have length := length_lasting_add_length_ioFailures
    ((fresh config).calls outcomes count).results
  rw [length_results_calls] at length
  refine ⟨?_, ?_, ?_, accounts.failures, ?_, ?_, ?_⟩
  · intro segment
    refine ⟨Envelope.cut segment, Envelope.cutting_cut segment, ?_⟩
    intro parts cutting
    exact (Envelope.cutting_iff.mp cutting).symm
  · intro segment envelopes tail cutting
    obtain ⟨encoded, consistent⟩ := Envelope.map_encode_frames_of_cutting cutting
    refine ⟨Envelope.frames segment, encoded, consistent, ?_⟩
    simp [segmentResults, Envelope.tail, Envelope.cutting_iff.mp cutting]
  · have given := List.prefix_iff_eq_take.mp accounts.given
    rw [length_results_calls] at given
    rw [Nat.sub_eq_of_eq_add length.symm]
    exact given
  · intro enough
    by_contra left
    have ahead := congrArg List.length (accounts.ahead left)
    have failures := congrArg List.length accounts.failures
    have more := List.length_pos_iff.mpr (owedResults_ne_nil
      ((fresh config).calls outcomes count).reader.buffer
      ((fresh config).calls outcomes count).source)
    simp only [List.length_append, owedResults, fresh] at ahead failures more enough length
    omega
  · intro left later
    rw [calls_append left]
    rfl
  · intro other others number same size
    exact lasting_eq_of_segments_eq same size

/-- A header that arrives in two chunks with an interruption between, a failure inside
the next envelope, and the same bytes in two whole chunks under the other policy. -/
theorem calls_give_segments_of_broken_header :
    let broken : List ReadOutcome :=
      [.delivered [1, 0], .failed .interrupted, .delivered [0, 1, 7, 9],
        .failed .brokenPipe, .delivered [], .delivered [2]]
    let whole : List ReadOutcome :=
      [.delivered [1, 0, 0, 1, 7, 9], .delivered [], .delivered [2]]
    Envelope.Cutting [1, 0, 0, 1, 7, 9] [[1, 0, 0, 1, 7]] [9] ∧
    (∃ frames : List Frame, frames.map Frame.encode = [[1, 0, 0, 1, 7]] ∧
      (∀ frame ∈ frames, frame.isConsistent = true) ∧
      segmentResults [1, 0, 0, 1, 7, 9] =
        frames.map (fun frame => .ok (some frame)) ++ [endResult [9]]) ∧
    ((fresh ⟨.strict, 0⟩).calls broken 6).source = [] ∧
    ((fresh ⟨.strict, 0⟩).calls (broken ++ [.delivered [5]]) 2).results =
      ((fresh ⟨.strict, 0⟩).calls broken 2).results ∧
    lasting ((fresh ⟨.permissive, 255⟩).calls whole 5).results =
      lasting ((fresh ⟨.strict, 0⟩).calls broken 6).results := by
  intro broken whole
  have cutting : Envelope.Cutting [1, 0, 0, 1, 7, 9] [[1, 0, 0, 1, 7]] [9] :=
    Envelope.cutting_iff.mpr (by decide +kernel)
  have owed : ((segments [] broken).flatMap segmentResults).length = 3 := by decide +kernel
  have failures : (reportedFailures broken).length = 1 := by decide +kernel
  have left : ((fresh ⟨.strict, 0⟩).calls broken 2).source = [.delivered [], .delivered [2]] := by
    decide +kernel
  obtain ⟨_, parts, _, _, used, _, equal⟩ := calls_give_segments ⟨.strict, 0⟩ broken 6
  obtain ⟨_, _, _, _, _, later, _⟩ := calls_give_segments ⟨.strict, 0⟩ broken 2
  refine ⟨cutting, parts _ _ _ cutting, used ?_, later ?_ [.delivered [5]], equal _ whole 5 ?_ ?_⟩
  · rw [owed, failures]
    decide
  · rw [left]
    decide
  · decide
  · decide +kernel

end FrameReader

end RadioMesh
