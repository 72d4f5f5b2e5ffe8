import ClassSwap.Duration
import ClassSwap.FileTree

namespace ClassSwap

structure ProcessRun where
  files : FileTree
  stdout : Bytes := []
  stderr : Bytes := []
  succeeded : Bool := true
  took : Duration := ⟨0⟩

structure Host where
  directory : Place
  temporary : String := "/tmp"
  /-- Where programs are looked for that are given by a name alone. -/
  searchPath : List String := []
  /-- What the program at a place does with arguments. -/
  run : Place → FileTree → List String → ProcessRun
  /-- Whether the path that goes by a text is Unicode. -/
  isUnicode : String → Bool := fun _ => true

namespace Host

/-- A path from the working directory as one from the root. -/
def absolute (host : Host) (path : String) : String :=
  Path.join ("/" ++ "/".intercalate host.directory) path

/-- The program at a path. Only files that are marked as programs can be run. -/
def programAt (host : Host) (files : FileTree) (path : String) : Except OsError Place := do
  let at_ ← files.locate host.directory path
  match files.find? at_.place with
  | none => throw .notFound
  | some .directory => throw .permissionDenied
  | some (.file _ executable) =>
    if at_.directoryOnly then throw .notADirectory
    else if executable then return at_.place
    else throw .permissionDenied

/-- The first program of a name in the directories to search. One that may not be run does not end
the search, but is remembered. -/
def search (host : Host) (files : FileTree) (name : String) (cause : OsError) :
    List String → Except OsError Place
  | [] => .error cause
  | directory :: rest =>
    match host.programAt files (Path.join directory name) with
    | .ok place => .ok place
    | .error .permissionDenied => search host files name .permissionDenied rest
    | .error _ => search host files name cause rest

/-- The program that a text names: a path if it has a `/`, else a name to search for. -/
def program (host : Host) (files : FileTree) (text : String) : Except OsError Place :=
  if text.isEmpty then .error .notFound
  else if text.toList.contains '/' then host.programAt files text
  else host.search files text .notFound host.searchPath

def spawn (host : Host) (files : FileTree) (text : String) (arguments : List String) :
    Except OsError ProcessRun :=
  if (text :: arguments).any fun s => s.toList.contains '\x00' then .error .nulInArgument
  else
    match host.program files text with
    | .error e => .error e
    | .ok place => .ok (host.run place files arguments)

end Host

end ClassSwap
