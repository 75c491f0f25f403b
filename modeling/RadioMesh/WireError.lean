import RadioMesh.IoFailure
import RadioMesh.Text.Quoted

/-!
# Errors of the wire format

What can go wrong between a record and its bytes, with the one wording of each
error.
-/

namespace RadioMesh

open Text

/-- Why bytes are no record, a record has no bytes, or a frame did not get
through. -/
inductive WireError
  | tooShort (needed actual : Nat)
  | invalidLength (expected actual : Nat)
  | malformed (reason : String)
  | payloadTooLarge (size limit : Nat)
  | invalidAddress (text : String)
  | io (failure : IoFailure)
  | connectionClosed
  deriving DecidableEq, Repr

namespace WireError

def message : WireError → String
  | tooShort needed actual =>
      "buffer too short (" ++ decimal actual ++ " bytes, need " ++ decimal needed ++ ")"
  | invalidLength expected actual =>
      "invalid length (" ++ decimal actual ++ " bytes, expected " ++ decimal expected ++ ")"
  | malformed reason => "malformed record: " ++ reason
  | payloadTooLarge size limit =>
      "payload too large (" ++ decimal size ++ " bytes, max " ++ decimal limit ++ ")"
  | invalidAddress text => "invalid device address: " ++ Quoted.string text
  | io failure => "wire I/O error: " ++ failure.message
  | connectionClosed => "connection closed (incomplete frame)"

end WireError

end RadioMesh
