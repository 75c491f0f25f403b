import RadioMesh.Program

/-!
# What requests to encode describe

A frame that was built from a request has the opcode, the handle and the data that the
request gives in text, whatever length it declares.
-/

namespace RadioMesh

section

variable {ε ε' α β : Type}

theorem exists_of_bind_eq_ok {first : Except ε α} {next : α → Except ε β} {result : β}
    (done : first >>= next = .ok result) :
    ∃ value, first = .ok value ∧ next value = .ok result := by
  cases first with
  | error error => cases done
  | ok value => exact ⟨value, rfl, done⟩

theorem eq_ok_of_mapError_eq_ok {reword : ε → ε'} {attempt : Except ε α} {value : α}
    (done : attempt.mapError reword = .ok value) : attempt = .ok value := by
  cases attempt with
  | error error => cases done
  | ok other =>
      cases done
      rfl

end

namespace EncodeRequest

/-- The capture into which the record goes. -/
def capture? : EncodeRequest → Option String
  | frame fields => fields.append
  | hub fields => fields.append
  | _ => none

/-- The record and the frame that a request describes, whatever length it declares. -/
inductive Describes : EncodeRequest → RecordKind → Frame → Prop where
  | frame {fields : FrameFields} {envelope : Frame} :
      Text.HexInput.parse fields.data = .ok envelope.data →
      envelope.opcode = fields.opcode →
      envelope.handle = fields.handle →
      Describes (.frame fields) .frame envelope
  | hub {fields : HubFields} {source : Address} {payload : Bytes} {envelope : Frame} :
      Address.parse fields.source = .ok source →
      Text.HexInput.parse fields.payload = .ok payload →
      envelope.opcode = fields.opcode →
      envelope.handle = fields.handle →
      envelope.data = source.encode ++ Word16.toBytes fields.messageType ++ payload →
      Describes (.hub fields) .hub envelope

end EncodeRequest

namespace Conversion

open EncodeRequest

theorem fields_of_ofData {opcode : UInt8} {handle : UInt16} {data : Bytes} {envelope : Frame}
    (built : Frame.ofData opcode handle data = .ok envelope) :
    envelope.opcode = opcode ∧ envelope.handle = handle ∧ envelope.data = data := by
  unfold Frame.ofData at built
  split at built
  · cases built
    exact ⟨rfl, rfl, rfl⟩
  · cases built

theorem describes_of_frameOf {fields : FrameFields} {envelope : Frame}
    (built : frameOf fields = .ok envelope) : Describes (.frame fields) .frame envelope := by
  obtain ⟨data, parsed, built⟩ := exists_of_bind_eq_ok built
  obtain ⟨first, sized, declared⟩ := exists_of_bind_eq_ok built
  obtain ⟨opcode, handle, same⟩ := fields_of_ofData (eq_ok_of_mapError_eq_ok sized)
  have text := eq_ok_of_mapError_eq_ok parsed
  rw [← same] at text
  split at declared
  · cases declared
    exact .frame text opcode handle
  · cases declared
    exact .frame text opcode handle

theorem describes_of_hubFrameOf {fields : HubFields} {envelope : Frame}
    (built : hubFrameOf fields = .ok envelope) : Describes (.hub fields) .hub envelope := by
  obtain ⟨source, address, built⟩ := exists_of_bind_eq_ok built
  obtain ⟨payload, parsed, built⟩ := exists_of_bind_eq_ok built
  obtain ⟨opcode, handle, same⟩ := fields_of_ofData (eq_ok_of_mapError_eq_ok built)
  exact .hub (eq_ok_of_mapError_eq_ok address) (eq_ok_of_mapError_eq_ok parsed) opcode handle
    same

end Conversion

end RadioMesh
