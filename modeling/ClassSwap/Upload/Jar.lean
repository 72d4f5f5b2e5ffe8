import ClassSwap.ClassName
import ClassSwap.Zip.Archiver

namespace ClassSwap

/-- Why classes cannot be packed, or a jar cannot be read. -/
inductive JarError where
  | duplicateClass (className : ClassName)
  | zip (fault : Zip.Fault)
  | io (fault : Zip.ContentFault)
  deriving DecidableEq, Repr

def Zip.Fault.message : Zip.Fault → String
  | .noDirectory => "invalid Zip archive: Could not find EOCD"
  | .unsupported => "unsupported Zip archive: Compression method not supported"
  | .duplicateName => "invalid Zip archive: Duplicate filename"
  | .longName => "invalid Zip archive: File name too long"

def Zip.ContentFault.message : Zip.ContentFault → String
  | .damaged => "Invalid checksum"
  | .largeEntry => "Large file option has not been set"

def JarError.message : JarError → String
  | duplicateClass c => s!"class {c.text} appears more than once in the batch"
  | zip fault => "zip error: " ++ fault.message
  | io fault => "archive i/o error: " ++ fault.message

namespace Jar

def entriesOf (classes : List ClassFile) : List (String × Bytes) :=
  classes.map fun c => (c.className.classFilePath, c.bytes)

/-- Adds classes to an archive in their order, up to one whose name has come up before or which the
archiver refuses. -/
def pack (archiver : Zip.Archiver) (names : List ClassName) (draft : archiver.Draft) :
    List ClassFile → Except JarError archiver.Draft
  | [] => .ok draft
  | c :: rest =>
    if names.contains c.className then .error (.duplicateClass c.className)
    else
      match archiver.start draft c.className.classFilePath with
      | .error fault => .error (.zip fault)
      | .ok opened =>
        match archiver.fill opened c.bytes with
        | .error fault => .error (.io fault)
        | .ok draft => pack archiver (c.className :: names) draft rest

def buildWith (archiver : Zip.Archiver) (classes : List ClassFile) : Except JarError Bytes :=
  match pack archiver [] archiver.blank classes with
  | .error e => .error e
  | .ok draft => (archiver.finish draft).mapError .zip

def build (classes : List ClassFile) (packer : Zip.Packer := .storing) : Except JarError Bytes :=
  buildWith (Zip.archiver packer) classes

/-- Reads the entries that some rows tell of, without those for directories. -/
def readRows (archiver : Zip.Archiver) (jar : Bytes) :
    List Zip.Header → Except JarError (List Zip.Entry)
  | [] => .ok []
  | h :: rest => do
    let packed ← (archiver.select jar h).mapError .zip
    if h.isDirectory then readRows archiver jar rest
    else
      let content ← (archiver.unpack h packed).mapError .io
      return ⟨h, content⟩ :: (← readRows archiver jar rest)

def readWith (archiver : Zip.Archiver) (jar : Bytes) : Except JarError (List Zip.Entry) :=
  (archiver.rows jar).mapError .zip >>= readRows archiver jar

/-- The entries of a jar in order, without those for directories. -/
def read (jar : Bytes) : Except JarError (List Zip.Entry) := readWith (Zip.archiver .storing) jar

end Jar

end ClassSwap
