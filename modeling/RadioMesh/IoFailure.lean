/-!
# Failures of the surroundings

Reading, writing and opening can fail for reasons that lie outside the
library.  The usual reasons have a constructor and a fixed wording each.  Any
other comes with its own wording, and with what it is taken for.
-/

namespace RadioMesh

/-- What a failure with its own wording is taken for.  An interruption is not among
them, and neither is a write call that would block: such calls are repeated, and
no one sees how it was worded.  A read call that would block is as any other. -/
inductive IoKind
  | notFound
  | permissionDenied
  | other
  deriving DecidableEq, Repr

inductive IoFailure
  | notFound
  | permissionDenied
  | connectionRefused
  | connectionReset
  | connectionAborted
  | notConnected
  | addressInUse
  | brokenPipe
  | alreadyExists
  | wouldBlock
  | invalidInput
  | invalidData
  | timedOut
  | writeZero
  | interrupted
  | unsupported
  | unexpectedEnd
  | outOfMemory
  | other
  /-- The path names nothing. -/
  | noSuchFile
  /-- The path names a folder where a file is needed. -/
  | isFolder
  /-- The path goes through something that is not a folder. -/
  | notFolder
  /-- A name in the path, or the path, is longer than any file's. -/
  | nameTooLong
  /-- The path holds the character zero. -/
  | zeroInPath
  /-- Any other reason. -/
  | worded (kind : IoKind) (wording : String)
  deriving DecidableEq, Repr

namespace IoFailure

def message : IoFailure → String
  | notFound => "entity not found"
  | permissionDenied => "permission denied"
  | connectionRefused => "connection refused"
  | connectionReset => "connection reset"
  | connectionAborted => "connection aborted"
  | notConnected => "not connected"
  | addressInUse => "address in use"
  | brokenPipe => "broken pipe"
  | alreadyExists => "entity already exists"
  | wouldBlock => "operation would block"
  | invalidInput => "invalid input parameter"
  | invalidData => "invalid data"
  | timedOut => "timed out"
  | writeZero => "write zero"
  | interrupted => "operation interrupted"
  | unsupported => "unsupported"
  | unexpectedEnd => "unexpected end of file"
  | outOfMemory => "out of memory"
  | other => "other error"
  | noSuchFile => "No such file or directory (os error 2)"
  | isFolder => "Is a directory (os error 21)"
  | notFolder => "Not a directory (os error 20)"
  | nameTooLong => "File name too long (os error 36)"
  | zeroInPath => "file name contained an unexpected NUL byte"
  | worded _ wording => wording

/-- A writer repeats a call that failed for one of these reasons. -/
def isTransient : IoFailure → Bool
  | interrupted => true
  | wouldBlock => true
  | _ => false

end IoFailure

end RadioMesh
