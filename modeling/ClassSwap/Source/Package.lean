import ClassSwap.ClassName
import ClassSwap.FileTree
import ClassSwap.Source.Identifier
import ClassSwap.Utf8

namespace ClassSwap.Source

/-- One more identifier behind a dot that may have white space around it. -/
def takeSpacedMember? (text : List Char) : Option (List Char × List Char) :=
  match skipBlank text with
  | '.' :: rest => takeIdentifier? (skipBlank rest)
  | _ => none

theorem takeSpacedMember?_lt {text name rest : List Char}
    (h : takeSpacedMember? text = some (name, rest)) : rest.length < text.length := by
  unfold takeSpacedMember? at h
  split at h
  next tail heq =>
    have h1 := takeIdentifier?_lt h
    have h2 := length_dropWhile_le isBlank tail
    have h3 := length_dropWhile_le isBlank text
    simp only [skipBlank] at heq h1
    rw [heq] at h3
    simp only [List.length_cons] at h3
    omega
  · cases h

def takeSpacedMembers (text : List Char) : List (List Char) × List Char :=
  match _h : takeSpacedMember? text with
  | some (name, rest) =>
    let (names, after) := takeSpacedMembers rest
    (name :: names, after)
  | none => ([], text)
termination_by text.length
decreasing_by exact takeSpacedMember?_lt _h

/-- The package that is declared at the front of a line; the declaration may start on a later one
if only white space comes before it. -/
def packageAt? (line : List Char) : Option (List (List Char)) := do
  let rest ← skipWord? "package".toList (skipBlank line)
  let rest ← skipBlanks? rest
  let (first, rest) ← takeIdentifier? rest
  let (more, rest) := takeSpacedMembers rest
  match skipBlank rest with
  | ';' :: _ => some (first :: more)
  | _ => none

def package? (text : List Char) : Option (List (List Char)) :=
  (lineStarts text).findSome? packageAt?

/-- The name of the class that a source text declares under a simple name. -/
def className (text simpleName : String) : ClassName :=
  match package? text.toList with
  | some names => ⟨dotted names ++ "." ++ simpleName⟩
  | none => ⟨simpleName⟩

/-- Reads a source file; its class is named after its package and its file stem. -/
def load (tree : FileTree) (here : Place) (path : String) : Except OsError SourceUnit := do
  let bytes ← tree.read here path
  match Utf8.toString? bytes with
  | none => throw .notText
  | some text =>
    match Path.stem? path with
    | none => throw (.noFileName path)
    | some stem => return ⟨className text stem, text, some path⟩

end ClassSwap.Source
