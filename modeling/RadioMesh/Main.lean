import RadioMesh.Program
import Std.Time.Zoned

/-!
# The command line

Gives the program its words, the standard input, the files on the way of the path
that its request names, the clock, the local time zone and whether it writes to a
terminal, and does what it decided: it prints, and puts what a capture gained behind its content.
-/

namespace RadioMesh

namespace CommandLine

/-- Everything that a stream still gives. -/
partial def readAll (stream : IO.FS.Stream) (given : ByteArray) : IO ByteArray := do
  let more ← stream.read 65536
  if more.isEmpty then return given
  readAll stream (given ++ more)

/-- Adds what is at a path of the file system.  Reading a folder fails with the
code 21; where there is neither a file nor a folder it fails in other ways. -/
def look (directory : Directory) (path : String) (place : Place) : IO Directory := do
  match ← (IO.FS.readBinFile path).toBaseIO with
  | .ok content => return directory.store place content.toList
  | .error (.inappropriateType _ code _) =>
      return if code = 21 then directory.addFolder place else directory
  | .error (.permissionDenied file code details) =>
      throw (.permissionDenied file code details)
  | .error _ => return directory

/-- The files and folders on the way of a path. -/
def lookAround : Option String → IO Directory
  | none => return .ofFiles [] []
  | some path =>
      (Directory.waypoints path).foldlM
        (fun directory (path, place) => look directory path place) (.ofFiles [] [])

/-- The offset of the local time zone at the start of a month of the year of a
time, in seconds. -/
def offsetIn (rules : Std.Time.TimeZone.ZoneRules) (now : Std.Time.Timestamp)
    (month : Std.Time.Month.Ordinal) : Int32 :=
  let year := (Std.Time.DateTime.ofTimestamp now .UTC).year
  let start := (Std.Time.PlainDate.ofYearMonthDayClip year month 1).toTimestamp .UTC
  Int32.ofInt (rules.findLocalTimeTypeForTimestamp start).gmtOffset.second.val

/-- The surroundings of the words of a command line. -/
def surroundings (words : List String) : IO Environment := do
  let request := (read words).toOption.map Invocation.request
  let stdin ←
    if request.any Request.readsStdin then readAll (← IO.getStdin) .empty else pure .empty
  let now ← Std.Time.Timestamp.now
  let rules ← Std.Time.Database.defaultGetLocalZoneRules
  return {
    directory := ← lookAround (request.bind Request.path?)
    stdin := stdin.toList
    now := Int64.ofInt now.toSecondsSinceUnixEpoch.val
    januaryOffset := offsetIn rules now 1
    julyOffset := offsetIn rules now 7
    build := .current
    terminal := ← (← IO.getStdout).isTty }

/-- Puts what a file gained behind its content in the file system. -/
def save (path : String) (before after : Directory) : IO Unit :=
  for (place, content) in after.files do
    let known := before.files.lookup place
    if known != some content then
      let handle ← IO.FS.Handle.mk path .append
      handle.write ⟨(content.drop (known.getD []).length).toArray⟩

end CommandLine

end RadioMesh

open RadioMesh in
/-- Runs the program with the words of its command line. -/
def main (words : List String) : IO UInt32 := do
  let environment ← CommandLine.surroundings words
  let ending := Program.execute environment words
  if let .ok invocation := CommandLine.read words then
    if let some path := invocation.request.path? then
      CommandLine.save path environment.directory ending.directory
  let stdout ← IO.getStdout
  stdout.write ⟨ending.stdout.toArray⟩
  stdout.flush
  for line in ending.stderr do
    IO.eprintln line
  return ending.code.toUInt32
