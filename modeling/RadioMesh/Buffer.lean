import RadioMesh.Bytes

/-!
# Writing into a buffer

What is written into a buffer stands behind the bytes that it holds already.
Work that stops with an error leaves the buffer as it is then.
-/

namespace RadioMesh

namespace Buffer

def putBytes (bytes : Bytes) : StateM Bytes Unit := modify (· ++ bytes)

def putByte (byte : UInt8) : StateM Bytes Unit := putBytes [byte]

def putWord (word : UInt16) : StateM Bytes Unit := putBytes (Word16.toBytes word)

/-- What follows a success finds the buffer that the success has left. -/
theorem run_bind_of_eq_ok {ε : Type} {first later : ExceptT ε (StateM Bytes) Unit}
    {buffer written : Bytes} (done : first.run.run buffer = (.ok (), written)) :
    (first >>= fun _ => later).run.run buffer = later.run.run written := by
  rw [ExceptT.run_bind, StateT.run_bind, done]
  rfl

end Buffer

end RadioMesh
