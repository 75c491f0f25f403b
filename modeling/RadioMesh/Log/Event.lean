import RadioMesh.Address
import RadioMesh.Record.Kind

/-!
# Events

What the library reports about its work while it works.  An event says what
happened; its level, its wording and its named fields follow from that.
-/

namespace RadioMesh

/-- How much an event matters, the most severe first. -/
inductive Level
  | error
  | warn
  | info
  | debug
  | trace
  deriving DecidableEq, Repr

namespace Level

/-- The name of a level in the log. -/
def title : Level → String
  | error => "ERROR"
  | warn => "WARN"
  | info => "INFO"
  | debug => "DEBUG"
  | trace => "TRACE"

/-- The name of a level where a user gives it. -/
def name : Level → String
  | error => "error"
  | warn => "warn"
  | info => "info"
  | debug => "debug"
  | trace => "trace"

def all : List Level := [error, warn, info, debug, trace]

/-- The place of a level, the most severe lowest. -/
def rank : Level → Nat
  | error => 0
  | warn => 1
  | info => 2
  | debug => 3
  | trace => 4

end Level

/-- The value of a named field.  A `label` is text that is shown bare. -/
inductive FieldValue
  | number (value : Int)
  | truth (value : Bool)
  | text (value : String)
  | label (value : String)
  deriving DecidableEq, Repr

inductive Event
  | lengthMismatchTolerated (declared actual : Nat)
  | frameDecoded (opcode : UInt8) (handle : UInt16) (dataLength : UInt8) (dataSize : Nat)
  | hubMessageDecoded (source : Address) (messageType : UInt16) (payloadSize : Nat)
  | meshCommandDecoded (channel : UInt8) (target : Address) (messageType : UInt16)
  | configRecordDecoded (kind : UInt8) (length : UInt16) (trailing : Nat)
  | streamEndedMidFrame (buffered : Nat)
  | stampCompleted (reference : Int64) (stamp : UInt16) (delta : Int) (result : Int64)
  | decodingStarted (kind : RecordKind) (size : Nat) (strict : Bool)
  | recordEncoded (kind : RecordKind) (size : Nat)
  | frameAppended (path : String) (size : Nat)
  | dumpCompleted (frames : Nat)
  | timeReconstructed (reference : Int64) (utcOffset : Int32) (result : Int64)
  deriving DecidableEq, Repr

namespace Event

def level : Event → Level
  | lengthMismatchTolerated .. => .warn
  | frameAppended .. => .info
  | dumpCompleted .. => .info
  | stampCompleted .. => .trace
  | _ => .debug

def message : Event → String
  | lengthMismatchTolerated .. => "declared length mismatch tolerated"
  | frameDecoded .. => "decoded frame"
  | hubMessageDecoded .. => "decoded hub message"
  | meshCommandDecoded .. => "decoded mesh command"
  | configRecordDecoded .. => "decoded config record"
  | streamEndedMidFrame .. => "stream ended mid-frame"
  | stampCompleted .. => "reconstructed partial timestamp"
  | decodingStarted .. => "decoding"
  | recordEncoded .. => "encoded"
  | frameAppended .. => "appended frame"
  | dumpCompleted .. => "dump complete"
  | timeReconstructed .. => "reconstructed"

def fields : Event → List (String × FieldValue)
  | lengthMismatchTolerated declared actual =>
      [("declared", .number declared), ("actual", .number actual)]
  | frameDecoded opcode handle dataLength dataSize =>
      [("opcode", .number opcode.toNat), ("handle", .number handle.toNat),
        ("data_length", .number dataLength.toNat), ("data_len", .number dataSize)]
  | hubMessageDecoded source messageType payloadSize =>
      [("source", .label source.text), ("message_type", .number messageType.toNat),
        ("payload_len", .number payloadSize)]
  | meshCommandDecoded channel target messageType =>
      [("channel", .number channel.toNat), ("target", .label target.text),
        ("message_type", .number messageType.toNat)]
  | configRecordDecoded kind length trailing =>
      [("kind", .number kind.toNat), ("name", .text (configTypeName kind)),
        ("length", .number length.toNat), ("trailing", .number trailing)]
  | streamEndedMidFrame buffered => [("buffered", .number buffered)]
  | stampCompleted reference stamp delta result =>
      [("reference", .number reference.toInt), ("partial", .number stamp.toNat),
        ("delta", .number delta), ("reconstructed", .number result.toInt)]
  | decodingStarted kind size strict =>
      [("kind", .label kind.title), ("size", .number size), ("strict", .truth strict)]
  | recordEncoded kind size => [("record", .text kind.name), ("size", .number size)]
  | frameAppended path size => [("path", .label path), ("size", .number size)]
  | dumpCompleted frames => [("frames", .number frames)]
  | timeReconstructed reference utcOffset result =>
      [("reference", .number reference.toInt), ("utc_offset_secs", .number utcOffset.toInt),
        ("reconstructed", .number result.toInt)]

end Event

end RadioMesh
