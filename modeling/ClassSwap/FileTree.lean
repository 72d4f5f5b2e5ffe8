import ClassSwap.Bytes
import ClassSwap.Path
import ClassSwap.Table

namespace ClassSwap

/-- Why a call on the file system or on a socket fails. -/
inductive OsError where
  | notFound
  | permissionDenied
  | alreadyExists
  | notADirectory
  | isADirectory
  | nameTooLong
  | networkUnreachable
  | connectionReset
  | brokenPipe
  | unexpectedEnd
  | notText
  | nulInName
  | nulInArgument
  | noFileName (path : String)
  | lookupFailed
  deriving DecidableEq, Repr

namespace OsError

def message : OsError → String
  | notFound => "No such file or directory (os error 2)"
  | permissionDenied => "Permission denied (os error 13)"
  | alreadyExists => "File exists (os error 17)"
  | notADirectory => "Not a directory (os error 20)"
  | isADirectory => "Is a directory (os error 21)"
  | nameTooLong => "File name too long (os error 36)"
  | networkUnreachable => "Network is unreachable (os error 101)"
  | connectionReset => "Connection reset by peer (os error 104)"
  | brokenPipe => "Broken pipe (os error 32)"
  | unexpectedEnd => "early eof"
  | notText => "stream did not contain valid UTF-8"
  | nulInName => "file name contained an unexpected NUL byte"
  | nulInArgument => "nul byte found in provided data"
  | noFileName path => path ++ " has no usable file name"
  | lookupFailed => "failed to lookup address information: Temporary failure in name resolution"

end OsError

/-- A place in a tree: the names from the root down. -/
abbrev Place := List String

inductive Entry where
  | file (content : Bytes) (executable : Bool)
  | directory
  deriving DecidableEq, Repr

/-- A tree by the places of its files and directories; the root is always a directory. -/
structure FileTree where
  entries : Table Place Entry
  deriving Repr

namespace FileTree

def empty : FileTree := ⟨[]⟩

def find? (tree : FileTree) (place : Place) : Option Entry :=
  if place.isEmpty then some .directory else tree.entries.get? place

def put (tree : FileTree) (place : Place) (entry : Entry) : FileTree :=
  ⟨tree.entries.put place entry⟩

def removeAll (tree : FileTree) (place : Place) : FileTree :=
  ⟨tree.entries.filter fun e => !place.isPrefixOf e.1⟩

/-- How long names and paths may be, in bytes. There may be no limit. -/
class Limits where
  name : Option Nat
  path : Option Nat
  /-- `.` and `..` are always taken. -/
  dots : ∀ most ∈ name, 2 ≤ most

section

variable [Limits]

def takesName (name : String) : Bool := Limits.name.all fun most => name.utf8ByteSize ≤ most

def takesPath (path : String) : Bool := Limits.path.all fun most => path.utf8ByteSize ≤ most

/-- Follows names from a place. Every place on the way must be a directory. -/
def walk (tree : FileTree) (here : Place) : List String → Except OsError Place
  | [] => .ok here
  | name :: rest =>
    match tree.find? here with
    | none => .error .notFound
    | some (.file ..) => .error .notADirectory
    | some .directory =>
      if name == "." then walk tree here rest
      else if name == ".." then walk tree here.dropLast rest
      else if !takesName name then .error .nameTooLong
      else walk tree (here ++ [name]) rest

/-- A path that has been looked up. `directoryOnly` tells that its text asks for a directory. -/
structure Located where
  place : Place
  directoryOnly : Bool

/-- Looks a path up from the working directory `here`; the last name need not exist. -/
def locate (tree : FileTree) (here : Place) (path : String) : Except OsError Located := do
  let chars := path.toList
  if chars.contains '\x00' then throw .nulInName
  if path.isEmpty then throw .notFound
  if !takesPath path then throw .nameTooLong
  let names := ((splitOnChar '/' chars).map String.ofList).filter (· != "")
  let place ← walk tree (if Path.isAbsolute path then [] else here) names
  let last := names.getLast?
  return ⟨place, chars.getLast? == some '/' || last == some "." || last == some ".."⟩

def isDirectory (tree : FileTree) (here : Place) (path : String) : Bool :=
  match tree.locate here path with
  | .ok at_ => tree.find? at_.place == some .directory
  | .error _ => false

def read (tree : FileTree) (here : Place) (path : String) : Except OsError Bytes := do
  let at_ ← tree.locate here path
  match tree.find? at_.place with
  | none => throw .notFound
  | some .directory => throw .isADirectory
  | some (.file content _) => if at_.directoryOnly then throw .notADirectory else return content

def openDirectory (tree : FileTree) (here : Place) (path : String) : Except OsError Place := do
  let at_ ← tree.locate here path
  match tree.find? at_.place with
  | none => throw .notFound
  | some (.file ..) => throw .notADirectory
  | some .directory => return at_.place

/-- The directory that holds a place must exist before something is created there. -/
def requireParent (tree : FileTree) (place : Place) : Except OsError Unit :=
  match tree.find? place.dropLast with
  | some .directory => .ok ()
  | some (.file ..) => .error .notADirectory
  | none => .error .notFound

/-- Creates a file or replaces the bytes of an existing one. -/
def write (tree : FileTree) (here : Place) (path : String) (content : Bytes) :
    Except OsError FileTree := do
  let at_ ← tree.locate here path
  match tree.find? at_.place with
  | some .directory => throw .isADirectory
  | some (.file _ executable) =>
    if at_.directoryOnly then throw .notADirectory
    else return tree.put at_.place (.file content executable)
  | none => do
    tree.requireParent at_.place
    if at_.directoryOnly then throw .isADirectory
    return tree.put at_.place (.file content false)

/-- Opens a file for writing at its end, creating it if there is none. -/
def openAtEnd (tree : FileTree) (here : Place) (path : String) :
    Except OsError (Place × FileTree) :=
  match tree.locate here path, tree.read here path with
  | .ok at_, .ok _ => .ok (at_.place, tree)
  | .ok at_, .error .notFound => do return (at_.place, ← tree.write here path [])
  | .ok _, .error e | .error e, _ => .error e

def append (tree : FileTree) (place : Place) (content : Bytes) : FileTree :=
  match tree.find? place with
  | some (.file before executable) => tree.put place (.file (before ++ content) executable)
  | _ => tree

def makeDirectory (tree : FileTree) (here : Place) (path : String) : Except OsError FileTree := do
  let at_ ← tree.locate here path
  match tree.find? at_.place with
  | some _ => throw .alreadyExists
  | none => do
    tree.requireParent at_.place
    return tree.put at_.place .directory

/-- Creates a directory and the missing ones above it, at most `depth` levels of them. A tree that
was partly built when a later step fails stays partly built. -/
def makeDirectories (tree : FileTree) (here : Place) (path : String) :
    (depth : Nat) → FileTree × Except OsError Unit
  | 0 => (tree, .error .notFound)
  | depth + 1 =>
    if path.isEmpty then (tree, .ok ())
    else
      match tree.makeDirectory here path with
      | .ok made => (made, .ok ())
      | .error .notFound =>
        match Path.parent? path with
        | none => (tree, .error .notFound)
        | some above =>
          match makeDirectories tree here above depth with
          | (tree, .error e) => (tree, .error e)
          | (tree, .ok ()) =>
            match tree.makeDirectory here path with
            | .ok made => (made, .ok ())
            | .error e => (tree, if tree.isDirectory here path then .ok () else .error e)
      | .error e => (tree, if tree.isDirectory here path then .ok () else .error e)

def createAll (tree : FileTree) (here : Place) (path : String) : FileTree × Except OsError Unit :=
  tree.makeDirectories here path ((Path.parts path).length + 1)

def writeWithParents (tree : FileTree) (here : Place) (path : String) (content : Bytes) :
    FileTree × Except OsError Unit :=
  let above := (Path.parent? path).getD ""
  match (if above.isEmpty then (tree, .ok ()) else tree.createAll here above :
      FileTree × Except OsError Unit) with
  | (tree, .error e) => (tree, .error e)
  | (tree, .ok ()) =>
    match tree.write here path content with
    | .ok written => (written, .ok ())
    | .error e => (tree, .error e)

end

def maxName : Nat := 255

def maxPath : Nat := 4095

instance : Limits := ⟨some maxName, some maxPath, by decide⟩

/-- The place that a path leads to by its text alone, from the working directory `here`. -/
def placeOfText (here : Place) (path : String) : Place :=
  (Path.parts path).foldl
    (fun place part =>
      if part == "." then place
      else if part == ".." then place.dropLast
      else place ++ [part]) (if Path.isAbsolute path then [] else here)

/-- What a tree has that another one had not, in the order in which it came in. -/
def changes (before after : FileTree) : List (Place × Entry) :=
  after.entries.filter fun e => before.find? e.1 != some e.2

/-- The files and directories strictly below a place, by their names from there on. -/
def below (tree : FileTree) (place : Place) : List (Place × Entry) :=
  tree.entries.filterMap fun e =>
    if place.isPrefixOf e.1 && e.1.length != place.length then
      some (e.1.drop place.length, e.2)
    else none

/-- The files below a place, by their names from there on. -/
def filesBelow (tree : FileTree) (place : Place) : List (Place × Bytes) :=
  (tree.below place).filterMap fun e =>
    match e.2 with
    | .file content _ => some (e.1, content)
    | .directory => none

/-- What is below a place, by path: the bytes of files, and the directories that hold nothing. The
paths of the latter end in a separator. -/
def listing (tree : FileTree) (place : Place) : List (String × Option Bytes) :=
  let items := tree.below place
  items.filterMap fun item =>
    let path := "/".intercalate item.1
    match item.2 with
    | .file content _ => some (path, some content)
    | .directory =>
      if items.any fun other => item.1.isPrefixOf other.1 && other.1 != item.1 then none
      else some (path ++ "/", none)

end FileTree

end ClassSwap
