import ClassSwap.Toml.Scalar

namespace ClassSwap.Toml

/-- How deep values and the dots of a key may be nested. -/
def maxNesting : Nat := 80

def isBareKey (c : Char) : Bool := c.isAlphanum || c == '_' || c == '-'

/-- One part of a key: bare or quoted on one line. -/
def takeSimpleKey (text : List Char) : Option (String × List Char) :=
  match text with
  | '"' :: rest => (takeBasic (rest.length + 1) rest).map fun r => (String.ofList r.1, r.2)
  | '\'' :: rest => (takeLiteral rest).map fun r => (String.ofList r.1, r.2)
  | text =>
    let bare := text.takeWhile isBareKey
    if bare.isEmpty then none else some (String.ofList bare, text.dropWhile isBareKey)

/-- The parts of a key behind the first one; blanks may surround the dots. -/
def takeKeyParts : (tries : Nat) → List String → List Char → Option (List String × List Char)
  | 0, _, _ => none
  | tries + 1, parts, text =>
    match skipBlanks text with
    | '.' :: rest => do
      let (part, rest) ← takeSimpleKey (skipBlanks rest)
      takeKeyParts tries (parts ++ [part]) rest
    | rest => some (parts, rest)

/-- A key: the parts before the last one, the last one, and what follows behind blanks. -/
def takeKey (text : List Char) : Option ((List String × String) × List Char) := do
  let (first, rest) ← takeSimpleKey (skipBlanks text)
  let (parts, rest) ← takeKeyParts (rest.length + 1) [first] rest
  if maxNesting ≤ parts.length then none
  else return ((parts.dropLast, parts.getLast?.getD first), rest)

def skipComment (text : List Char) : List Char :=
  match text with
  | '#' :: rest => rest.dropWhile isPlain
  | text => text

def skipLoose : (tries : Nat) → List Char → List Char
  | 0, text => text
  | tries + 1, text =>
    let rest := skipComment (skipBlanks text)
    match takeBreak? rest with
    | some rest => skipLoose tries rest
    | none => rest

mutual

/-- A value; `room` counts the levels that may still be entered. -/
def takeValue (room : Nat) : (tries : Nat) → List Char → Option (Node × List Char)
  | 0, _ => none
  | tries + 1, text =>
    match text with
    | '"' :: _ | '\'' :: _ => (takeString text).map fun r => (.string r.1, r.2)
    | '[' :: rest =>
      if room ≤ 1 then none
      else do
        let (items, rest) ← takeItems (room - 1) tries [] rest
        return (.array items, rest)
    | '\x7b' :: rest =>
      if room ≤ 1 then none
      else do
        let (members, rest) ← takePairs (room - 1) tries [] rest
        return (.table .braces members, rest)
    | 't' :: 'r' :: 'u' :: 'e' :: rest => some (.boolean true, rest)
    | 'f' :: 'a' :: 'l' :: 's' :: 'e' :: rest => some (.boolean false, rest)
    | text => takeNumeral text

/-- The items of an array up to its closing bracket; a comma may follow the last one. -/
def takeItems (room : Nat) (tries : Nat) (items : List Node) (text : List Char) :
    Option (List Node × List Char) :=
  match tries with
  | 0 => none
  | tries + 1 =>
    match skipLoose text.length text with
    | ']' :: rest => some (items, rest)
    | text => do
      let (item, rest) ← takeValue room tries text
      match skipLoose rest.length rest with
      | ',' :: rest => takeItems room tries (items ++ [item]) rest
      | ']' :: rest => some (items ++ [item], rest)
      | _ => none

/-- The pairs of a table in braces up to the closing brace, all on one line. -/
def takePairs (room : Nat) (tries : Nat) (members : Members) (text : List Char) :
    Option (Members × List Char) :=
  match tries with
  | 0 => none
  | tries + 1 =>
    match skipBlanks text with
    | '\x7d' :: rest => if members.isEmpty then some ([], rest) else none
    | text => do
      let ((path, key), rest) ← takeKey text
      let rest ← skipChar '=' rest
      let (value, rest) ← takeValue room tries (skipBlanks rest)
      let members ← addPair members path key value
      match skipBlanks rest with
      | ',' :: rest => takePairs room tries members rest
      | '\x7d' :: rest => some (members, rest)
      | _ => none

end

/-- What may stand at the end of a line, and the text from the next line on. -/
def endLine (text : List Char) : Option (List Char) :=
  match skipComment (skipBlanks text) with
  | [] => some []
  | rest => takeBreak? rest

def takeHeader (closing : List Char) (text : List Char) :
    Option ((List String × String) × List Char) := do
  let (key, rest) ← takeKey text
  if closing.isPrefixOf rest then return (key, rest.drop closing.length) else none

/-- One line, blank, with a header, or with a pair whose value may go on over further lines. -/
def takeLine (d : Draft) (text : List Char) : Option (Draft × List Char) :=
  match skipBlanks text with
  | '[' :: '[' :: rest => do
    let ((path, key), rest) ← takeHeader [']', ']'] rest
    let rest ← endLine rest
    return (← d.beginOneOfSeveral path key, rest)
  | '[' :: rest => do
    let ((path, key), rest) ← takeHeader [']'] rest
    let rest ← endLine rest
    return (← d.beginTable path key, rest)
  | text =>
    match endLine text with
    | some rest => some (d, rest)
    | none => do
      let ((path, key), rest) ← takeKey text
      let rest ← skipChar '=' rest
      let rest := skipBlanks rest
      let (value, rest) ← takeValue maxNesting (2 * rest.length + 4) rest
      let rest ← endLine rest
      return (← d.addPair path key value, rest)

def takeLines : (tries : Nat) → Draft → List Char → Option Members
  | 0, _, _ => none
  | tries + 1, d, text => do
    let (d, rest) ← takeLine d text
    if rest.isEmpty then d.settle else takeLines tries d rest

/-- The members of a document. A byte order mark in front is passed over. -/
def parse? (text : String) : Option Members :=
  let chars := match text.toList with
    | '\ufeff' :: rest => rest
    | chars => chars
  takeLines (chars.length + 1) .start chars

end ClassSwap.Toml
