import RadioMesh.Directory
import RadioMesh.Failure
import RadioMesh.Output.View
import RadioMesh.Request
import RadioMesh.Stream.FrameWriter

/-!
# Captures

A capture is a file of frames one after the other.  A frame is put behind the
content of a capture, which makes the file if it is missing, even if the frame
is then refused.  A capture is shown frame by frame until it ends, until as many
frames as were asked for have been shown, or until something is wrong.
-/

namespace RadioMesh

structure Dump where
  views : List View
  failure : Option Failure
  events : List Event

namespace Capture

/-- Puts a frame behind the content of a capture. -/
def append (directory : Directory) (path : String) (frame : Frame) :
    Directory × Attempt Failure Unit :=
  match directory.openForAppending path with
  | .error failure => (directory, .fail (.opening path failure))
  | .ok (place, content) =>
      let call := FrameWriter.writeFrame ⟨{}⟩ frame (Pipe.ofBytes content)
      (directory.store place call.pipe.content,
        match call.result with
        | .ok () => .report (.frameAppended path frame.wireSize)
        | .error error => .fail (.wire "append failed" error))

def position (index : Nat) : String := "frame " ++ Text.decimal index

/-- A frame at a position, as itself or as a hub message. -/
def view (asHub : Bool) (index : Nat) (frame : Frame) : Except Failure View :=
  if asHub then
    match HubMessage.ofFrame frame with
    | .error error => .error (.wire (position index ++ " is not a hub message") error)
    | .ok message =>
        match message.body with
        | .error error => .error (.wire (position index ++ " payload invalid") error)
        | .ok body => .ok (.hub message body)
  else .ok (.frame frame)

/-- Shows what a reader gave, the first of it being at `index`. -/
def showItems (asHub : Bool) (index : Nat) : List (Attempt WireError Frame) → Dump
  | [] => ⟨[], none, [.dumpCompleted index]⟩
  | item :: rest =>
      match item.result with
      | .error error =>
          ⟨[], some (.wire (position index ++ " unreadable") error), item.events⟩
      | .ok frame =>
          match view asHub index frame with
          | .error failure => ⟨[], some failure, item.events⟩
          | .ok shown =>
              let later := showItems asHub (index + 1) rest
              ⟨shown :: later.views, later.failure, item.events ++ later.events⟩

/-- What a reader gives of a capture, or of its first `count` frames. -/
def items (source : Pipe) (count : Option Nat) : List (Attempt WireError Frame) :=
  let all := FrameReader.items (FrameReader.fresh {}) source
  match count with
  | none => all
  | some count => all.take count

def source (directory : Directory) (stdin : Bytes) (request : DumpRequest) :
    Except IoFailure Pipe :=
  if request.fromStdin then .ok (.ofBytes stdin) else directory.openForReading request.path

def dump (directory : Directory) (stdin : Bytes) (request : DumpRequest) : Dump :=
  match source directory stdin request with
  | .error failure => ⟨[], some (.opening request.path failure), []⟩
  | .ok pipe => showItems request.asHub 0 (items pipe request.count)

end Capture

end RadioMesh
