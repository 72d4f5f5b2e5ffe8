import ClassSwap.FileTree
import ClassSwap.Log
import ClassSwap.Save.Naming
import ClassSwap.Utf8

namespace ClassSwap

structure AmbiguousTarget where
  count : Nat
  deriving DecidableEq, Repr

def AmbiguousTarget.message (e : AmbiguousTarget) : String :=
  s!"custom naming writes a single file, but {e.count} items were given"

structure SaveResult where
  className : ClassName
  path : String
  failure : Option OsError
  deriving DecidableEq, Repr

def SaveResult.isSaved (r : SaveResult) : Bool := r.failure.isNone

inductive SaveOutcome where
  | allSaved
  | partiallySaved
  | noneSaved
  deriving DecidableEq, Repr

/-- The account of a batch; there is one result per item, in order. -/
structure SaveReport where
  saved : Nat
  total : Nat
  lastPath : Option String
  results : List SaveResult
  deriving DecidableEq, Repr

namespace SaveReport

def outcome (r : SaveReport) : SaveOutcome :=
  if r.saved = 0 then .noneSaved else if r.saved = r.total then .allSaved else .partiallySaved

def failures (r : SaveReport) : List SaveResult := r.results.filter fun x => !x.isSaved

def statusLine (r : SaveReport) : String :=
  let last := r.lastPath.getD ""
  match r.outcome with
  | .allSaved => s!"Saved all {r.total} classes to {last}"
  | .partiallySaved => s!"Saved only {r.saved} from total of {r.total} classes to {last}"
  | .noneSaved => if r.total = 0 then "Nothing to save" else s!"Saved none of {r.total} classes"

def start (total : Nat) : SaveReport := ⟨0, total, none, []⟩

def add (report : SaveReport) (r : SaveResult) : SaveReport :=
  let report := { report with results := report.results ++ [r] }
  if r.isSaved then { report with saved := report.saved + 1, lastPath := some r.path } else report

end SaveReport

namespace Save

/-- A file to be written: the class it is named after, and its bytes. -/
structure Item where
  className : ClassName
  content : Bytes

def Item.ofClassFile (c : ClassFile) : Item := ⟨c.className, c.bytes⟩

def Item.ofSource (u : SourceUnit) : Item := ⟨u.className, Utf8.ofString u.text⟩

section

variable [FileTree.Limits]

def writeOne (tree : FileTree) (here : Place) (path : String) (item : Item) :
    FileTree × SaveResult :=
  match tree.writeWithParents here path item.content with
  | (tree, .ok ()) => (tree, ⟨item.className, path, none⟩)
  | (tree, .error e) => (tree, ⟨item.className, path, some e⟩)

def writeEach (tree : FileTree) (here : Place) (pathOf : ClassName → String) :
    List Item → FileTree × List SaveResult
  | [] => (tree, [])
  | item :: rest =>
    let (tree, result) := writeOne tree here (pathOf item.className) item
    let (tree, results) := writeEach tree here pathOf rest
    (tree, result :: results)

def writeAll (tree : FileTree) (here : Place) (base : String) (strategy : Naming) (suffix : String)
    (items : List Item) : FileTree × Except AmbiguousTarget SaveReport :=
  if strategy = .custom ∧ 1 < items.length then (tree, .error ⟨items.length⟩)
  else
    let (tree, results) := writeEach tree here (fun c => strategy.resolve base c suffix) items
    (tree, .ok (results.foldl SaveReport.add (.start items.length)))

def writeClassFiles (tree : FileTree) (here : Place) (base : String) (strategy : Naming)
    (suffix : String) (files : List ClassFile) : FileTree × Except AmbiguousTarget SaveReport :=
  writeAll tree here base strategy suffix (files.map Item.ofClassFile)

def writeSources (tree : FileTree) (here : Place) (base : String) (strategy : Naming)
    (units : List SourceUnit) : FileTree × Except AmbiguousTarget SaveReport :=
  writeAll tree here base strategy ClassName.sourceSuffix (units.map Item.ofSource)

end

def resultEvent (r : SaveResult) : LogEvent :=
  match r.failure with
  | none =>
    ⟨.debug, "hotline.artifact", "saved",
      [("class", .text r.className.text), ("path", .text r.path)]⟩
  | some e =>
    ⟨.warn, "hotline.artifact", "failed to save",
      [("class", .text r.className.text), ("path", .text r.path), ("error", .text e.message)]⟩

def reportEvents (r : SaveReport) : List LogEvent :=
  r.results.map resultEvent
    ++ [⟨.info, "hotline.artifact", r.statusLine,
      [("saved", .number r.saved), ("total", .number r.total)]⟩]

end Save

end ClassSwap
