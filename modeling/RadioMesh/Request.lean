import RadioMesh.Record.Frame
import RadioMesh.Record.Kind

/-!
# Requests

What a user can ask for, once the arguments have been understood.  Bytes and
addresses are still the text that the user gave.
-/

namespace RadioMesh

/-- The fields of a frame to encode.  `dataLength` is declared instead of the
length of the data, and `append` is a capture to put the frame into. -/
structure FrameFields where
  opcode : UInt8
  handle : UInt16
  data : String
  dataLength : Option UInt8
  append : Option String
  deriving DecidableEq, Repr

structure HubFields where
  opcode : UInt8
  handle : UInt16
  source : String
  messageType : UInt16
  payload : String
  append : Option String
  deriving DecidableEq, Repr

structure ConfigFields where
  kind : UInt8
  payload : String
  deriving DecidableEq, Repr

structure TrackedFields where
  address : String
  rssi : Int8
  deriving DecidableEq, Repr

structure CommandFields where
  channel : UInt8
  target : String
  messageType : UInt16
  payload : String
  deriving DecidableEq, Repr

inductive EncodeRequest
  | frame (fields : FrameFields)
  | hub (fields : HubFields)
  | config (fields : ConfigFields)
  | tracked (fields : TrackedFields)
  | command (fields : CommandFields)
  deriving DecidableEq, Repr

structure DecodeRequest where
  kind : RecordKind
  hex : String
  policy : LengthPolicy
  deriving DecidableEq, Repr

/-- A capture to show, perhaps as hub messages, and perhaps only its first
frames. -/
structure DumpRequest where
  path : String
  asHub : Bool
  count : Option Nat
  deriving DecidableEq, Repr

/-- A stamp to complete.  What is missing is taken from the surroundings. -/
structure TimeRequest where
  stamp : UInt16
  reference : Option Int64
  utcOffset : Option Int32
  deriving DecidableEq, Repr

inductive Request
  | decode (request : DecodeRequest)
  | encode (request : EncodeRequest)
  | dump (request : DumpRequest)
  | reconstruct (request : TimeRequest)
  | version (extended : Bool)
  deriving DecidableEq, Repr

namespace DumpRequest

/-- Whether the frames come from the standard input, for which a hyphen stands. -/
def fromStdin (request : DumpRequest) : Bool := request.path == "-"

end DumpRequest

namespace Request

def readsStdin : Request → Bool
  | dump request => request.fromStdin
  | _ => false

def path? : Request → Option String
  | dump request => if request.fromStdin then none else some request.path
  | encode (.frame fields) => fields.append
  | encode (.hub fields) => fields.append
  | _ => none

end Request

end RadioMesh
