import ClassSwap.Bytes
import ClassSwap.Path
import ClassSwap.Quoted

namespace ClassSwap

/-- A fully qualified class name with dots, such as `a.b.Outer$Inner`. -/
structure ClassName where
  text : String
  deriving DecidableEq, Repr, Inhabited

def replaceChar (old new : Char) (text : List Char) : List Char :=
  text.map fun c => if c = old then new else c

namespace ClassName

instance : ToString ClassName := ⟨ClassName.text⟩

def split (name : ClassName) : Option (List Char) × List Char :=
  match splitAtLast '.' name.text.toList with
  | some (package, simple) => (some package, simple)
  | none => (none, name.text.toList)

/-- The text before the last dot; a name without a dot has no package. -/
def package? (name : ClassName) : Option String := name.split.1.map String.ofList

def packageText (name : ClassName) : String := name.package?.getD ""

def simpleName (name : ClassName) : String := String.ofList name.split.2

def internalName (name : ClassName) : String :=
  String.ofList (replaceChar '.' '/' name.text.toList)

def ofInternal (internal : String) : ClassName :=
  ⟨String.ofList (replaceChar '/' '.' internal.toList)⟩

def classSuffix : String := ".class"

def sourceSuffix : String := ".java"

/-- The path of the class file in a class directory or an archive. -/
def classFilePath (name : ClassName) : String := name.internalName ++ classSuffix

def isNested (name : ClassName) : Bool := name.split.2.contains '$'

/-- The outermost class around this one: the simple name is cut at its first `$`. -/
def topLevel (name : ClassName) : ClassName :=
  match name.split with
  | (some package, simple) => ⟨String.ofList (package ++ '.' :: simple.takeWhile (· ≠ '$'))⟩
  | (none, simple) => ⟨String.ofList (simple.takeWhile (· ≠ '$'))⟩

/-- What the names of classes begin with that every compiler has on its own. -/
def platformPackages : List String := ["java.", "javax.", "jdk.", "sun.", "com.sun."]

def isPlatform (name : ClassName) : Bool :=
  platformPackages.any fun p => p.toList.isPrefixOf name.text.toList

/-- The order by code points, which is that of the UTF-8 bytes. -/
def le (a b : ClassName) : Bool := a.text ≤ b.text

def sort (names : List ClassName) : List ClassName := names.mergeSort le

def dropRepeated : List ClassName → List ClassName
  | [] => []
  | [a] => [a]
  | a :: b :: rest => if a = b then dropRepeated (b :: rest) else a :: dropRepeated (b :: rest)

/-- Names in rising order, each once. -/
def sortedSet (names : List ClassName) : List ClassName := dropRepeated (sort names)

/-- The class that an archive entry holds: `a/b/C.class` holds `a.b.C`. -/
def ofEntry? (entry : String) : Option ClassName :=
  let chars := entry.toList
  let suffix := classSuffix.toList
  if suffix.isSuffixOf chars then
    let internal := chars.take (chars.length - suffix.length)
    if internal.isEmpty || internal.getLast? == some '/' then none
    else some (ofInternal (String.ofList internal))
  else none

def diagnostic (c : ClassName) : String := "ClassIdentifier(" ++ Quoted.text c.text ++ ")"

end ClassName

/-- Something to compile: a buffer with the source text of one class. -/
structure SourceUnit where
  className : ClassName
  text : String
  origin : Option String := none
  deriving DecidableEq, Repr

structure ClassFile where
  className : ClassName
  bytes : Bytes
  deriving DecidableEq, Repr

/-- How diagnostics show a class file: of the bytes only their number. -/
def ClassFile.diagnostic (f : ClassFile) : String :=
  "BytecodeArtifact \x7b class: " ++ f.className.diagnostic ++ ", len: " ++ toString f.bytes.length
    ++ " \x7d"

end ClassSwap
