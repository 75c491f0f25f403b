import RadioMesh.Proofs.Stream.Writing

/-!
# Calls of a frame writer

`BufferedWriter` is a frame writer with the buffer in which it lays out a frame, and it
keeps a log of its calls on the pipe.  `WritesOut` says which logs are possible: write calls
that offer what is left of the frame, then flush calls, up to the first call that decides
the result.
-/

namespace RadioMesh

/-- A call on a pipe, and what came of it. -/
inductive PipeCall
  | write (offered : Bytes) (outcome : Except IoFailure Nat)
  | flush (outcome : Except IoFailure Unit)

namespace PipeCall

/-- The bytes that a call has handed over. -/
def handed : PipeCall → Bytes
  | write offered (.ok count) => offered.take count
  | write _ (.error _) => []
  | flush _ => []

/-- The result of the writer, if a call decides it. -/
def verdict? : PipeCall → Option (Except WireError Unit)
  | write _ (.ok 0) => some (.error .connectionClosed)
  | write _ (.ok (_ + 1)) => none
  | write _ (.error failure) =>
      if failure.isTransient then none else some (.error (.io failure))
  | flush (.ok ()) => some (.ok ())
  | flush (.error failure) =>
      if failure.isTransient then none else some (.error (.io failure))

def handedBy (calls : List PipeCall) : Bytes := calls.flatMap handed

@[simp] theorem handedBy_nil : handedBy [] = [] := rfl

@[simp] theorem handedBy_cons (call : PipeCall) (calls : List PipeCall) :
    handedBy (call :: calls) = call.handed ++ handedBy calls := rfl

@[simp] theorem handedBy_append (made later : List PipeCall) :
    handedBy (made ++ later) = handedBy made ++ handedBy later := by
  simp [handedBy]

theorem handed_of_verdict? {call : PipeCall} {verdict : Except WireError Unit}
    (decided : call.verdict? = some verdict) : call.handed = [] := by
  unfold verdict? at decided
  split at decided
  · rfl
  · cases decided
  · rfl
  · rfl
  · rfl

theorem verdict?_write_error {failure : IoFailure} (lasting : failure.isTransient = false)
    (offered : Bytes) :
    (write offered (.error failure)).verdict? = some (.error (.io failure)) :=
  if_neg (by simp [lasting])

theorem verdict?_flush_error {failure : IoFailure} (lasting : failure.isTransient = false) :
    (flush (.error failure)).verdict? = some (.error (.io failure)) :=
  if_neg (by simp [lasting])

/-- Only a flush call can end the work of a writer well. -/
theorem eq_flush_of_verdict?_ok {call : PipeCall} (decided : call.verdict? = some (.ok ())) :
    call = flush (.ok ()) := by
  unfold verdict? at decided
  split at decided
  · cases decided
  · cases decided
  · split at decided <;> cases decided
  · rfl
  · split at decided <;> cases decided

end PipeCall

open PipeCall

/-- Some calls on a pipe, one after the other, are answered as the pipe does. -/
inductive Answered : Pipe → List PipeCall → Pipe → Prop where
  | done (pipe : Pipe) : Answered pipe [] pipe
  | write {pipe next last : Pipe} {offered : Bytes} {outcome : Except IoFailure Nat}
      {calls : List PipeCall} :
      pipe.write offered = (outcome, next) →
      Answered next calls last →
      Answered pipe (.write offered outcome :: calls) last
  | flush {pipe next last : Pipe} {outcome : Except IoFailure Unit} {calls : List PipeCall} :
      pipe.flush = (outcome, next) →
      Answered next calls last →
      Answered pipe (.flush outcome :: calls) last

/-- What is handed over arrives in the pipe. -/
theorem Answered.content {pipe last : Pipe} {calls : List PipeCall}
    (answered : Answered pipe calls last) : last.content = pipe.content ++ handedBy calls := by
  induction answered with
  | done pipe => simp
  | @write pipe next last offered outcome calls written _ ih =>
      rw [ih, handedBy_cons, ← List.append_assoc]
      congr 1
      cases outcome with
      | ok count =>
          obtain ⟨_, _, rfl⟩ := Pipe.pipe_of_write_ok written
          rfl
      | error failure =>
          obtain ⟨_, _, rfl⟩ := Pipe.pipe_of_write_error written
          simp [handed]
  | @flush pipe next last outcome calls flushed _ ih =>
      rw [ih, handedBy_cons, handed, List.nil_append]
      cases outcome with
      | ok _ =>
          obtain ⟨_, _, rfl⟩ := Pipe.pipe_of_flush_ok flushed
          rfl
      | error failure =>
          obtain ⟨_, _, rfl⟩ := Pipe.pipe_of_flush_error flushed
          rfl

/-- The calls of a writer, the result that they led to, and the pipe after them. -/
structure WriteLog where
  calls : List PipeCall
  result : Except WireError Unit
  pipe : Pipe

namespace WriteLog

/-- A log with one more call in front. -/
def behind (log : WriteLog) (call : PipeCall) : WriteLog :=
  { log with calls := call :: log.calls }

def outcome (log : WriteLog) : WriteResult := ⟨log.result, log.pipe⟩

@[simp] theorem outcome_behind (log : WriteLog) (call : PipeCall) :
    (log.behind call).outcome = log.outcome := rfl

end WriteLog

namespace Pipe

def flushLogged (pipe : Pipe) : WriteLog :=
  match _ : pipe.flush with
  | (.ok (), next) => ⟨[.flush (.ok ())], .ok (), next⟩
  | (.error failure, next) =>
      if failure.isTransient then (flushLogged next).behind (.flush (.error failure))
      else ⟨[.flush (.error failure)], .error (.io failure), next⟩
termination_by pipe.flushes.length
decreasing_by
  exact budget_flush_error ‹pipe.flush = (.error failure, next)›

/-- Offers a buffer from an offset on until all of it is taken, and then flushes. -/
def writeLogged (buffer : Bytes) (offset : Nat) (pipe : Pipe) : WriteLog :=
  if offset < buffer.length then
    let offered := buffer.drop offset
    match _ : pipe.write offered with
    | (.ok 0, next) => ⟨[.write offered (.ok 0)], .error .connectionClosed, next⟩
    | (.ok (count + 1), next) =>
        (writeLogged buffer (offset + (count + 1)) next).behind
          (.write offered (.ok (count + 1)))
    | (.error failure, next) =>
        if failure.isTransient then
          (writeLogged buffer offset next).behind (.write offered (.error failure))
        else ⟨[.write offered (.error failure)], .error (.io failure), next⟩
  else pipe.flushLogged
termination_by (buffer.length - offset) + pipe.writes.length
decreasing_by
  · have bounds := budget_write_ok ‹pipe.write offered = (.ok (count + 1), next)›
    omega
  · have shorter := budget_write_error ‹pipe.write offered = (.error failure, next)›
    omega

end Pipe

/-- A frame writer with its buffer, in which the last frame is left over. -/
structure BufferedWriter where
  config : StreamConfig
  buffer : Bytes
  deriving DecidableEq, Repr

namespace BufferedWriter

def clear (writer : BufferedWriter) : BufferedWriter := { writer with buffer := [] }

/-- Puts the encoding of a frame behind what is in the buffer. -/
def layOut (writer : BufferedWriter) (frame : Frame) : BufferedWriter :=
  { writer with buffer := writer.buffer ++ frame.encode }

def writeFrame (writer : BufferedWriter) (frame : Frame) (pipe : Pipe) :
    BufferedWriter × WriteLog :=
  match FrameWriter.rejection? ⟨writer.config⟩ frame with
  | some error => (writer, ⟨[], .error error, pipe⟩)
  | none =>
      let filled := writer.clear.layOut frame
      (filled, pipe.writeLogged filled.buffer 0)

theorem writeFrame_of_rejection? {writer : BufferedWriter} {frame : Frame} {error : WireError}
    (rejected : FrameWriter.rejection? ⟨writer.config⟩ frame = some error) (pipe : Pipe) :
    (writer.writeFrame frame pipe).2 = ⟨[], .error error, pipe⟩ := by
  simp only [writeFrame, rejected]

/-- What was in the buffer before does not matter. -/
theorem writeFrame_of_unrejected {writer : BufferedWriter} {frame : Frame}
    (unrejected : FrameWriter.rejection? ⟨writer.config⟩ frame = none) (pipe : Pipe) :
    (writer.writeFrame frame pipe).2 = pipe.writeLogged frame.encode 0 := by
  simp only [writeFrame, unrejected]
  rfl

end BufferedWriter

namespace Pipe

theorem flushAll_eq (pipe : Pipe) :
    pipe.flushAll =
      match pipe.flush with
      | (.ok (), next) => ⟨.ok (), next⟩
      | (.error failure, next) =>
          if failure.isTransient then next.flushAll else ⟨.error (.io failure), next⟩ := by
  rw [flushAll]
  split
  · next next same => rw [same]
  · next failure next same => rw [same]

theorem outcome_flushLogged (pipe : Pipe) : pipe.flushLogged.outcome = pipe.flushAll := by
  fun_induction flushLogged pipe with
  | case1 pipe next flushed =>
      rw [flushAll_eq, flushed]
      rfl
  | case2 pipe failure next failed passing ih =>
      rw [WriteLog.outcome_behind, ih, flushAll_eq pipe, failed]
      simp only [if_pos passing]
  | case3 pipe failure next failed lasting =>
      rw [flushAll_eq, failed]
      simp only [if_neg lasting]
      rfl

theorem writeAll_eq (bytes : Bytes) (pipe : Pipe) :
    pipe.writeAll bytes =
      match pipe.writeStep bytes with
      | .finished call => call
      | .remaining later next => next.writeAll later := by
  rw [writeAll]
  split
  · next call same => rw [same]
  · next later next same => rw [same]

/-- WritesOut bytes and, if all of them were taken, flushes. -/
def writeThenFlush (bytes : Bytes) (pipe : Pipe) : WriteResult :=
  match pipe.writeAll bytes with
  | ⟨.ok (), written⟩ => written.flushAll
  | ⟨.error error, written⟩ => ⟨.error error, written⟩

theorem outcome_writeLogged (buffer : Bytes) (offset : Nat) (pipe : Pipe) :
    (pipe.writeLogged buffer offset).outcome = pipe.writeThenFlush (buffer.drop offset) := by
  have nonempty : ∀ {offset : Nat}, offset < buffer.length →
      ¬(buffer.drop offset).isEmpty = true := by
    intro offset more
    simpa using more
  fun_induction writeLogged buffer offset pipe with
  | case1 offset pipe more offered next written =>
      change pipe.write (buffer.drop offset) = (.ok 0, next) at written
      rw [writeThenFlush, writeAll_eq, writeStep, if_neg (nonempty more), written]
      rfl
  | case2 offset pipe more offered count next written ih =>
      change pipe.write (buffer.drop offset) = (.ok (count + 1), next) at written
      rw [WriteLog.outcome_behind, ih, writeThenFlush, writeThenFlush, writeAll_eq _ pipe,
        writeStep, if_neg (nonempty more), written]
      simp only [List.drop_drop]
  | case3 offset pipe more offered failure next failed passing ih =>
      change pipe.write (buffer.drop offset) = (.error failure, next) at failed
      rw [WriteLog.outcome_behind, ih, writeThenFlush, writeThenFlush, writeAll_eq _ pipe,
        writeStep, if_neg (nonempty more), failed]
      simp only [if_pos passing]
  | case4 offset pipe more offered failure next failed lasting =>
      change pipe.write (buffer.drop offset) = (.error failure, next) at failed
      rw [writeThenFlush, writeAll_eq, writeStep, if_neg (nonempty more), failed]
      simp only [if_neg lasting]
      rfl
  | case5 offset pipe done =>
      rw [outcome_flushLogged, List.drop_eq_nil_of_le (Nat.le_of_not_lt done), writeThenFlush,
        writeAll_eq, writeStep]
      rfl

theorem answered_flushLogged (pipe : Pipe) :
    Answered pipe pipe.flushLogged.calls pipe.flushLogged.pipe := by
  fun_induction flushLogged pipe with
  | case1 pipe next flushed => exact .flush flushed (.done next)
  | case2 pipe failure next failed passing ih => exact .flush failed ih
  | case3 pipe failure next failed lasting => exact .flush failed (.done next)

theorem answered_writeLogged (buffer : Bytes) (offset : Nat) (pipe : Pipe) :
    Answered pipe (pipe.writeLogged buffer offset).calls
      (pipe.writeLogged buffer offset).pipe := by
  fun_induction writeLogged buffer offset pipe with
  | case1 offset pipe more offered next written => exact .write written (.done next)
  | case2 offset pipe more offered count next written ih => exact .write written ih
  | case3 offset pipe more offered failure next failed passing ih => exact .write failed ih
  | case4 offset pipe more offered failure next failed lasting =>
      exact .write failed (.done next)
  | case5 offset pipe done => exact answered_flushLogged pipe

end Pipe

/-- The last of some calls decides the result, and none before it does. -/
def Decides (calls : List PipeCall) (result : Except WireError Unit) : Prop :=
  ∃ made last, calls = made ++ [last] ∧ last.verdict? = some result ∧
    ∀ call ∈ made, call.verdict? = none

namespace Decides

variable {call : PipeCall} {calls : List PipeCall} {result : Except WireError Unit}

theorem last (decided : call.verdict? = some result) : Decides [call] result :=
  ⟨[], call, rfl, decided, by simp⟩

theorem behind (later : Decides calls result) (passed : call.verdict? = none) :
    Decides (call :: calls) result := by
  obtain ⟨made, last, rfl, decided, others⟩ := later
  exact ⟨call :: made, last, rfl, decided, List.forall_mem_cons.mpr ⟨passed, others⟩⟩

end Decides

/-- The logs of a writer that still has some bytes to hand over. -/
inductive WritesOut : Bytes → List PipeCall → Except WireError Unit → Prop where
  | taken {bytes : Bytes} {count : Nat} {calls : List PipeCall}
      {result : Except WireError Unit} :
      count < bytes.length →
      WritesOut (bytes.drop (count + 1)) calls result →
      WritesOut bytes (.write bytes (.ok (count + 1)) :: calls) result
  | closed {bytes : Bytes} :
      bytes ≠ [] →
      WritesOut bytes [.write bytes (.ok 0)] (.error .connectionClosed)
  | retried {bytes : Bytes} {failure : IoFailure} {calls : List PipeCall}
      {result : Except WireError Unit} :
      bytes ≠ [] →
      failure.isTransient = true →
      WritesOut bytes calls result →
      WritesOut bytes (.write bytes (.error failure) :: calls) result
  | failed {bytes : Bytes} {failure : IoFailure} :
      bytes ≠ [] →
      failure.isTransient = false →
      WritesOut bytes [.write bytes (.error failure)] (.error (.io failure))
  | flushed : WritesOut [] [.flush (.ok ())] (.ok ())
  | reflushed {failure : IoFailure} {calls : List PipeCall} {result : Except WireError Unit} :
      failure.isTransient = true →
      WritesOut [] calls result →
      WritesOut [] (.flush (.error failure) :: calls) result
  | unflushed {failure : IoFailure} :
      failure.isTransient = false →
      WritesOut [] [.flush (.error failure)] (.error (.io failure))

namespace Pipe

theorem writesOut_flushLogged (pipe : Pipe) :
    WritesOut [] pipe.flushLogged.calls pipe.flushLogged.result := by
  fun_induction flushLogged pipe with
  | case1 pipe next flushed => exact .flushed
  | case2 pipe failure next failed passing ih => exact .reflushed passing ih
  | case3 pipe failure next failed lasting =>
      exact .unflushed (eq_false_of_ne_true lasting)

theorem writesOut_writeLogged (buffer : Bytes) (offset : Nat) (pipe : Pipe) :
    WritesOut (buffer.drop offset) (pipe.writeLogged buffer offset).calls
      (pipe.writeLogged buffer offset).result := by
  have nonempty : ∀ {offset : Nat}, offset < buffer.length → buffer.drop offset ≠ [] := by
    intro offset more
    simpa using more
  fun_induction writeLogged buffer offset pipe with
  | case1 offset pipe more offered next written => exact .closed (nonempty more)
  | case2 offset pipe more offered count next written ih =>
      have bounds := budget_write_ok written
      rw [← List.drop_drop] at ih
      exact .taken bounds.1 ih
  | case3 offset pipe more offered failure next failed passing ih =>
      exact .retried (nonempty more) passing ih
  | case4 offset pipe more offered failure next failed lasting =>
      exact .failed (nonempty more) (eq_false_of_ne_true lasting)
  | case5 offset pipe done =>
      rw [List.drop_eq_nil_of_le (Nat.le_of_not_lt done)]
      exact writesOut_flushLogged pipe

end Pipe

namespace WritesOut

variable {bytes : Bytes} {calls made rest : List PipeCall} {result : Except WireError Unit}

/-- After some calls the writer goes on with what they have not handed over. -/
theorem of_append (writes : WritesOut bytes (made ++ rest) result) (more : rest ≠ []) :
    ∃ left, bytes = handedBy made ++ left ∧ WritesOut left rest result := by
  induction made generalizing bytes with
  | nil => exact ⟨bytes, rfl, writes⟩
  | cons call made ih =>
      have going : made ++ rest ≠ [] := by simp [more]
      rw [List.cons_append] at writes
      generalize following : made ++ rest = later at writes going
      cases writes with
      | @taken _ count _ _ _ writes =>
          obtain ⟨left, handed, writes⟩ := ih (following ▸ writes)
          refine ⟨left, ?_, writes⟩
          rw [handedBy_cons, List.append_assoc, ← handed]
          exact (List.take_append_drop (count + 1) bytes).symm
      | retried _ _ writes => exact ih (following ▸ writes)
      | reflushed _ writes => exact ih (following ▸ writes)
      | closed => exact absurd rfl going
      | failed => exact absurd rfl going
      | flushed => exact absurd rfl going
      | unflushed => exact absurd rfl going

/-- What has been handed over is a prefix of the bytes. -/
theorem handedBy_isPrefix (writes : WritesOut bytes calls result) : handedBy calls <+: bytes := by
  induction writes with
  | @taken bytes count calls result _ _ ih =>
      rw [handedBy_cons]
      have whole := (List.prefix_append_right_inj (bytes.take (count + 1))).mpr ih
      rwa [List.take_append_drop] at whole
  | closed => exact List.nil_prefix
  | retried _ _ _ ih => exact ih
  | failed => exact List.nil_prefix
  | flushed => exact List.nil_prefix
  | reflushed _ _ ih => exact ih
  | unflushed => exact List.nil_prefix

theorem decides (writes : WritesOut bytes calls result) : Decides calls result := by
  induction writes with
  | taken _ _ ih => exact ih.behind rfl
  | closed => exact .last rfl
  | retried _ passing _ ih => exact ih.behind (if_pos passing)
  | failed _ lasting => exact .last (verdict?_write_error lasting _)
  | flushed => exact .last rfl
  | reflushed passing _ ih => exact ih.behind (if_pos passing)
  | unflushed lasting => exact .last (verdict?_flush_error lasting)

theorem offered_of_write {offered : Bytes} {outcome : Except IoFailure Nat}
    (writes : WritesOut bytes (.write offered outcome :: rest) result) :
    offered = bytes ∧ offered ≠ [] := by
  cases writes with
  | taken positive =>
      refine ⟨rfl, ?_⟩
      rintro rfl
      cases positive
  | closed nonempty => exact ⟨rfl, nonempty⟩
  | retried nonempty => exact ⟨rfl, nonempty⟩
  | failed nonempty => exact ⟨rfl, nonempty⟩

theorem nil_of_flush {outcome : Except IoFailure Unit}
    (writes : WritesOut bytes (.flush outcome :: rest) result) : bytes = [] := by
  cases writes with
  | flushed => rfl
  | reflushed => rfl
  | unflushed => rfl

/-- A call that decides the result is the last one. -/
theorem last_of_verdict? {call : PipeCall} {verdict : Except WireError Unit}
    (writes : WritesOut bytes (call :: rest) result) (decided : call.verdict? = some verdict) :
    rest = [] ∧ result = verdict := by
  obtain ⟨made, last, parts, ended, passed⟩ := writes.decides
  cases made with
  | nil =>
      obtain ⟨rfl, rfl⟩ := List.cons.inj parts
      exact ⟨rfl, Option.some.inj (ended.symm.trans decided)⟩
  | cons first made =>
      obtain ⟨rfl, _⟩ := List.cons.inj parts
      rw [passed call List.mem_cons_self] at decided
      cases decided

/-- Nothing is flushed before the last write call. -/
theorem flush_notMem_of_write {offered : Bytes} {outcome : Except IoFailure Nat}
    (writes : WritesOut bytes (made ++ .write offered outcome :: rest) result)
    (flushed : Except IoFailure Unit) : .flush flushed ∉ made := by
  intro member
  obtain ⟨before, between, rfl⟩ := List.append_of_mem member
  rw [List.append_assoc] at writes
  obtain ⟨left, _, later⟩ := writes.of_append (by simp)
  obtain rfl := later.nil_of_flush
  -- The flush comes when nothing is left, and the write call when something is.
  obtain ⟨last, nothing, final⟩ := later.of_append (by simp)
  obtain ⟨rfl, nonempty⟩ := final.offered_of_write
  exact nonempty (List.append_eq_nil_iff.mp nothing.symm).2

end WritesOut

end RadioMesh
