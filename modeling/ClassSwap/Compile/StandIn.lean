import ClassSwap.Host
import ClassSwap.Json
import ClassSwap.Utf8

namespace ClassSwap

structure StandIn where
  journal : Place
  /-- What is created below the output directory; without a content it is a directory. -/
  outputs : List (String × Option Bytes) := []
  stdout : Bytes := []
  stderr : Bytes := []
  succeeds : Bool := true
  takes : Duration := ⟨0⟩

namespace StandIn

def argumentAfter (name : String) : List String → Option String
  | a :: b :: rest => if a == name then some b else argumentAfter name (b :: rest)
  | _ => none

def endsInJava (argument : String) : Bool := ".java".toList.isSuffixOf argument.toList

def sourceText (tree : FileTree) (here : Place) (path : String) : Json :=
  match tree.read here path with
  | .ok bytes => .string (String.ofList (Utf8.lossy bytes))
  | .error _ => .null

/-- What is below a directory, by path: the bytes of files, and directories that hold nothing. -/
def listing (tree : FileTree) (here : Place) (path : String) : Json :=
  match tree.locate here path with
  | .error _ => .object []
  | .ok at_ =>
    .object ((tree.listing at_.place).map fun item =>
      (item.1, match item.2 with
        | some content => .string (Bytes.toHex content)
        | none => .null))

def record (tree : FileTree) (here : Place) (arguments : List String) : Json :=
  .object [("args", .array (arguments.map .string)),
    ("sources", .array ((arguments.filter endsInJava).map (sourceText tree here))),
    ("classpath", listing tree here ((argumentAfter "-classpath" arguments).getD ""))]

def journalText (s : StandIn) (tree : FileTree) : Bytes :=
  match tree.find? s.journal with
  | some (.file content _) => content
  | _ => []

def create (here : Place) (directory : String) (tree : FileTree) (output : String × Option Bytes) :
    FileTree :=
  let path := Path.join directory output.1
  match output.2 with
  | some content => (tree.writeWithParents here path content).1
  | none => (tree.createAll here path).1

def run (s : StandIn) (here : Place) (tree : FileTree) (arguments : List String) : ProcessRun :=
  let line := Utf8.ofString ((record tree here arguments).text ++ "\n")
  let tree := tree.put s.journal (.file (s.journalText tree ++ line) false)
  let directory := (argumentAfter "-d" arguments).getD ""
  { files := s.outputs.foldl (create here directory) tree
    stdout := s.stdout
    stderr := s.stderr
    succeeded := s.succeeds
    took := s.takes }

/-- The lines of the record, and the files without it. -/
def takeJournal (journal : Place) (tree : FileTree) : List String × FileTree :=
  match tree.find? journal with
  | some (.file content _) =>
    ((splitOnChar '\n' (Utf8.lossy content)).map String.ofList, tree.removeAll journal)
  | _ => ([], tree)

end StandIn

end ClassSwap
