import RadioMesh.Stream.Pipe

/-!
# Directories

The files and folders among which a command works.  A path is followed name by
name from the working folder, or from the top if it starts with a slash.  It may
lead to a file, to a folder, or to a free place in a folder.
-/

namespace RadioMesh

/-- The names on the way from the top to a file or folder. -/
abbrev Place := List String

/-- The files with their contents, and the folders. -/
structure Directory where
  files : List (Place × Bytes)
  folders : List Place
  deriving DecidableEq, Repr

/-- Where a path leads. -/
inductive Target
  | file (place : Place) (content : Bytes)
  | folder
  /-- Nothing is there, but a file can be. -/
  | free (place : Place)
  /-- The path ends in a slash and so asks for a folder, but there is none. -/
  | missingFolder (reason : IoFailure)
  deriving DecidableEq, Repr

namespace Directory

def workingFolder : Place := ["."]

/-- A directory with these files and folders in the working folder. -/
def ofFiles (files : List (String × Bytes)) (folders : List String) : Directory :=
  ⟨files.map fun (name, content) => (workingFolder ++ [name], content),
    [] :: workingFolder :: folders.map fun name => workingFolder ++ [name]⟩

/-- The parts of some characters between the slashes. -/
def parts : List Char → List (List Char)
  | [] => [[]]
  | character :: rest =>
      if character = '/' then [] :: parts rest
      else
        match parts rest with
        | [] => [[character]]
        | part :: later => (character :: part) :: later

/-- The place where a path starts, and its names. -/
def route (path : String) : Place × List String :=
  match (parts path.toList).map String.ofList with
  | "" :: names => ([], names)
  | names => (workingFolder, names)

/-- The place to which a name leads. -/
def step (here : Place) (name : String) : Place :=
  if name = "" ∨ name = "." then here
  else if name = ".." then here.dropLast
  else here ++ [name]

/-- The paths on the way of a path, each with the place to which it leads. -/
def waypoints (path : String) : List (String × Place) :=
  let (here, names) := route path
  let top := if here.isEmpty then "/" else ""
  (List.range names.length).map fun count =>
    let way := names.take (count + 1)
    (top ++ "/".intercalate way, way.foldl step here)

def nameLimit : Nat := 255

def pathLimit : Nat := 4095

/-- Where names lead behind a place at which there is no folder, and why. -/
def beyond (names : List String) (reason : IoFailure) : Except IoFailure Target :=
  if names.all String.isEmpty then .ok (.missingFolder reason) else .error reason

def follow (directory : Directory) (here : Place) : List String → Except IoFailure Target
  | [] => .ok .folder
  | name :: rest =>
      if name = "" ∨ name = "." then directory.follow here rest
      else if name = ".." then directory.follow here.dropLast rest
      else
        let place := here ++ [name]
        if directory.folders.contains place then directory.follow place rest
        else
          match directory.files.lookup place with
          | some content =>
              if rest.isEmpty then .ok (.file place content) else beyond rest .notFolder
          | none =>
              if nameLimit < name.utf8ByteSize then
                if rest.isEmpty then .error .nameTooLong else beyond rest .nameTooLong
              else if rest.isEmpty then .ok (.free place)
              else beyond rest .noSuchFile

/-- Where a path leads. -/
def locate (directory : Directory) (path : String) : Except IoFailure Target :=
  if path.isEmpty then .error .noSuchFile
  else if path.toList.contains '\x00' then .error .zeroInPath
  else if pathLimit < path.utf8ByteSize then .error .nameTooLong
  else
    let (here, names) := route path
    directory.follow here names

/-- Opens a file to read it.  A folder can be opened but not read. -/
def openForReading (directory : Directory) (path : String) : Except IoFailure Pipe :=
  match directory.locate path with
  | .ok (.file _ content) => .ok (.ofBytes content)
  | .ok .folder => .ok { Pipe.ofBytes [] with reads := [.fail .isFolder] }
  | .ok (.free _) => .error .noSuchFile
  | .ok (.missingFolder reason) => .error reason
  | .error failure => .error failure

/-- Opens a file to write behind its content.  A missing file is made. -/
def openForAppending (directory : Directory) (path : String) :
    Except IoFailure (Place × Bytes) :=
  match directory.locate path with
  | .ok (.file place content) => .ok (place, content)
  | .ok (.free place) => .ok (place, [])
  | .ok .folder => .error .isFolder
  | .ok (.missingFolder _) => .error .isFolder
  | .error failure => .error failure

/-- Gives the file at a place a content, in its old position if it had one. -/
def storeIn (place : Place) (content : Bytes) : List (Place × Bytes) → List (Place × Bytes)
  | [] => [(place, content)]
  | file :: rest =>
      if file.1 = place then (place, content) :: rest else file :: storeIn place content rest

def addFolder (directory : Directory) (place : Place) : Directory :=
  { directory with folders := directory.folders ++ [place] }

def store (directory : Directory) (place : Place) (content : Bytes) : Directory :=
  { directory with files := storeIn place content directory.files }

end Directory

end RadioMesh
