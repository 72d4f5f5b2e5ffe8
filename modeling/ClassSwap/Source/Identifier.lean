import ClassSwap.Blank
import ClassSwap.Unicode.Category

namespace ClassSwap.Source

/-- What an identifier may start with; other scripts are not recognised here. -/
def isNameStart (c : Char) : Bool := c.isAlpha || c == '_' || c == '$'

def isNamePart (c : Char) : Bool := Unicode.isWord c || c == '$'

/-- The identifier at the front of a text, and what follows it. -/
def takeIdentifier? : List Char → Option (List Char × List Char)
  | [] => none
  | c :: rest =>
    if isNameStart c then some (c :: rest.takeWhile isNamePart, rest.dropWhile isNamePart)
    else none

def skipBlank (text : List Char) : List Char := text.dropWhile isBlank

def skipBlanks? : List Char → Option (List Char)
  | [] => none
  | c :: rest => if isBlank c then some (skipBlank rest) else none

def skipWord? (word text : List Char) : Option (List Char) :=
  if word.isPrefixOf text then some (text.drop word.length) else none

theorem length_dropWhile_le {α : Type} (p : α → Bool) (xs : List α) :
    (xs.dropWhile p).length ≤ xs.length := (List.dropWhile_sublist p).length_le

theorem takeIdentifier?_lt {text name rest : List Char}
    (h : takeIdentifier? text = some (name, rest)) : rest.length < text.length := by
  cases text with
  | nil => simp [takeIdentifier?] at h
  | cons c tail =>
    simp only [takeIdentifier?] at h
    split at h
    · obtain ⟨rfl, rfl⟩ := by simpa using h
      have := length_dropWhile_le isNamePart tail
      simp only [List.length_cons]
      omega
    · cases h

def takeMember? : List Char → Option (List Char × List Char)
  | '.' :: rest => takeIdentifier? rest
  | _ => none

theorem takeMember?_lt {text name rest : List Char}
    (h : takeMember? text = some (name, rest)) : rest.length < text.length := by
  unfold takeMember? at h
  split at h
  · have := takeIdentifier?_lt h
    simp only [List.length_cons]
    omega
  · cases h

/-- All further identifiers of a dotted name without white space, and what follows. -/
def takeMembers (text : List Char) : List (List Char) × List Char :=
  match _h : takeMember? text with
  | some (name, rest) =>
    let (names, after) := takeMembers rest
    (name :: names, after)
  | none => ([], text)
termination_by text.length
decreasing_by exact takeMember?_lt _h

def takeDotted? (text : List Char) : Option (List (List Char) × List Char) := do
  let (first, rest) ← takeIdentifier? text
  let (more, after) := takeMembers rest
  return (first :: more, after)

def dotted (names : List (List Char)) : String := ".".intercalate (names.map String.ofList)

def lineStarts (text : List Char) : List (List Char) :=
  text :: afterBreaks text
where
  afterBreaks : List Char → List (List Char)
    | [] => []
    | c :: rest => if c = '\n' then rest :: afterBreaks rest else afterBreaks rest

end ClassSwap.Source
