import RadioMesh.Record.HubMessage
import RadioMesh.Stream.FrameReader
import RadioMesh.Stream.Pipe

/-!
# Writing frames into a pipe

A frame is checked before any of it is written: its data must not exceed the
limit of the writer, and it must declare the length of its data.  A pipe that
takes only part of what it is offered is offered the rest, and calls that fail
for a passing reason are repeated.
-/

namespace RadioMesh

structure WriteResult where
  result : Except WireError Unit
  pipe : Pipe

/-- What one write call of a writer leads to: the end of its work, or bytes that
are still to be offered. -/
inductive WriteStep
  | finished (call : WriteResult)
  | remaining (bytes : Bytes) (pipe : Pipe)

namespace Pipe

def writeStep (bytes : Bytes) (pipe : Pipe) : WriteStep :=
  if bytes.isEmpty then .finished ⟨.ok (), pipe⟩
  else
    match pipe.write bytes with
    | (.ok 0, next) => .finished ⟨.error .connectionClosed, next⟩
    | (.ok (count + 1), next) => .remaining (bytes.drop (count + 1)) next
    | (.error failure, next) =>
        if failure.isTransient then .remaining bytes next
        else .finished ⟨.error (.io failure), next⟩

/-- A step that leaves bytes to be offered has taken some of them or has used up a
step of the script. -/
theorem shorter_of_writeStep {bytes later : Bytes} {pipe next : Pipe}
    (outcome : pipe.writeStep bytes = .remaining later next) :
    later.length + next.writes.length < bytes.length + pipe.writes.length := by
  unfold writeStep at outcome
  split at outcome
  · cases outcome
  · split at outcome
    · cases outcome
    · next count rest written =>
        cases outcome
        have bounds := budget_write_ok written
        simp only [List.length_drop]
        omega
    · next failure rest failed =>
        split at outcome
        · cases outcome
          have shorter := budget_write_error failed
          omega
        · cases outcome

def writeAll (bytes : Bytes) (pipe : Pipe) : WriteResult :=
  match _ : pipe.writeStep bytes with
  | .finished call => call
  | .remaining later next => next.writeAll later
termination_by bytes.length + pipe.writes.length
decreasing_by
  exact shorter_of_writeStep ‹pipe.writeStep bytes = .remaining later next›

def flushAll (pipe : Pipe) : WriteResult :=
  match _ : pipe.flush with
  | (.ok (), next) => ⟨.ok (), next⟩
  | (.error failure, next) =>
      if failure.isTransient then flushAll next else ⟨.error (.io failure), next⟩
termination_by pipe.flushes.length
decreasing_by
  exact budget_flush_error ‹pipe.flush = (.error failure, next)›

end Pipe

structure FrameWriter where
  config : StreamConfig
  deriving DecidableEq, Repr

namespace FrameWriter

/-- The error of a frame whose declared length is not the length of its data. -/
def inconsistent (frame : Frame) : WireError :=
  .malformed ("declared length " ++ Text.decimal frame.dataLength.toNat ++
    " but frame carries " ++ Text.decimal frame.data.length ++ " bytes")

/-- The reason for which a writer takes no part of a frame. -/
def rejection? (writer : FrameWriter) (frame : Frame) : Option WireError :=
  if writer.config.maxDataSize < frame.data.length then
    some (.payloadTooLarge frame.data.length writer.config.maxDataSize)
  else if !frame.isConsistent then some (inconsistent frame)
  else none

def writeFrame (writer : FrameWriter) (frame : Frame) (pipe : Pipe) : WriteResult :=
  match writer.rejection? frame with
  | some error => ⟨.error error, pipe⟩
  | none =>
      match pipe.writeAll frame.encode with
      | ⟨.ok (), written⟩ => written.flushAll
      | ⟨.error error, written⟩ => ⟨.error error, written⟩

def writeBuilt (writer : FrameWriter) (built : Except WireError Frame) (pipe : Pipe) :
    WriteResult :=
  match built with
  | .ok frame => writer.writeFrame frame pipe
  | .error error => ⟨.error error, pipe⟩

def send (writer : FrameWriter) (opcode : UInt8) (handle : UInt16) (data : Bytes)
    (pipe : Pipe) : WriteResult :=
  writer.writeBuilt (Frame.ofData opcode handle data) pipe

def writeHub (writer : FrameWriter) (message : HubMessage) (pipe : Pipe) : WriteResult :=
  writer.writeBuilt message.toFrame pipe

end FrameWriter

end RadioMesh
