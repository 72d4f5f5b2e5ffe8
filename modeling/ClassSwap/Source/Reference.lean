import ClassSwap.Source.Identifier

namespace ClassSwap.Source

structure Import where
  isStatic : Bool
  name : String
  onDemand : Bool
  deriving DecidableEq, Repr

/-- Whether the star of an import on demand stands here, and what follows. -/
def takeStar : List Char → Bool × List Char
  | '.' :: '*' :: after => (true, after)
  | rest => (false, rest)

/-- The name, the star and the semicolon of an import, and what follows. -/
def importTail? (isStatic : Bool) (text : List Char) : Option (Import × List Char) := do
  let (names, rest) ← takeDotted? text
  let (onDemand, rest) := takeStar rest
  match skipBlank rest with
  | ';' :: after => some (⟨isStatic, dotted names, onDemand⟩, after)
  | _ => none

/-- The import at the front of a line, and what follows. The word `static` is taken for a name
where no name comes behind it. -/
def importAt? (line : List Char) : Option (Import × List Char) := do
  let rest ← skipWord? "import".toList (skipBlank line)
  let rest ← skipBlanks? rest
  let statically := (skipWord? "static".toList rest).bind skipBlanks?
  match statically.bind (importTail? true) with
  | some found => some found
  | none => importTail? false rest

/-- The imports of a text; each starts a line and is looked for behind the one before. `atStart`
tells whether a line starts here, `tries` is at least the length of the text. -/
def importsFrom (atStart : Bool) : (tries : Nat) → List Char → List Import
  | 0, text => if atStart then ((importAt? text).map (·.1)).toList else []
  | tries + 1, text =>
    match if atStart then importAt? text else none with
    | some (found, rest) => found :: importsFrom false tries rest
    | none =>
      match text with
      | [] => []
      | c :: rest => importsFrom (c == '\n') tries rest

def imports (text : String) : List Import := importsFrom true text.length text.toList

/-- The qualified names of a text from left to right. A name starts where the text can start one,
be it in the middle of a word. -/
def qualifiedFrom : (tries : Nat) → List Char → List String
  | 0, _ => []
  | _, [] => []
  | tries + 1, c :: rest =>
    match takeDotted? (c :: rest) with
    | some (first :: second :: more, after) =>
      dotted (first :: second :: more) :: qualifiedFrom tries after
    | _ => qualifiedFrom tries rest

def qualifiedNames (text : String) : List String := qualifiedFrom text.length text.toList

end ClassSwap.Source
