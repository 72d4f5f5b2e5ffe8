import ClassSwap.Bytes
import ClassSwap.Path
import ClassSwap.Pattern.Expr

namespace ClassSwap.Pattern

inductive Fault where
  | malformed
  /-- The pattern is sound but would take too much memory. -/
  | tooLarge
  deriving DecidableEq, Repr

structure Flags where
  ignoreCase : Bool := false
  multiLine : Bool := false
  dotAll : Bool := false
  crlf : Bool := false
  unicode : Bool := true
  ignoreSpace : Bool := false

def Flags.set (f : Flags) (letter : Char) (value : Bool) : Flags :=
  match letter with
  | 'i' => { f with ignoreCase := value }
  | 'm' => { f with multiLine := value }
  | 's' => { f with dotAll := value }
  | 'R' => { f with crlf := value }
  | 'u' => { f with unicode := value }
  | 'x' => { f with ignoreSpace := value }
  | _ => f

/-- The letters of flags. That of greed is known, though greed does not change what is found. -/
def flagLetters : List Char := ['i', 'm', 's', 'U', 'u', 'R', 'x']

structure Cursor where
  rest : List Char
  flags : Flags
  names : List (List Char)

abbrev Parser (α : Type) := StateT Cursor (Except Fault) α

variable {α : Type}

def refuse : Parser α := throw .malformed

def refuseIf (condition : Bool) : Parser Unit := if condition then refuse else pure ()

def flags : Parser Flags := do return (← get).flags

def setFlags (f : Flags) : Parser Unit := modify fun s => { s with flags := f }

def peek? : Parser (Option Char) := do return (← get).rest.head?

def atEnd : Parser Bool := do return (← get).rest.isEmpty

/-- The next character; the end is refused. -/
def peek : Parser Char := do
  match ← peek? with
  | some c => pure c
  | none => refuse

def comes (text : String) : Parser Bool := do return text.toList.isPrefixOf (← get).rest

def drop (count : Nat) : Parser Unit := modify fun s => { s with rest := s.rest.drop count }

def skipIgnored (inComment : Bool) : List Char → List Char
  | [] => []
  | c :: rest =>
    if inComment then skipIgnored (c != '\n') rest
    else if isBlank c then skipIgnored false rest
    else if c == '#' then skipIgnored true rest
    else c :: rest

def skipSpace : Parser Unit :=
  modify fun s => if s.flags.ignoreSpace then { s with rest := skipIgnored false s.rest } else s

/-- Goes past one character and what carries no meaning after it. -/
def advance : Parser Unit := do drop 1; skipSpace

/-- The character after the next one, past what carries no meaning. -/
def peekBehind? : Parser (Option Char) := do
  let s ← get
  let rest := s.rest.drop 1
  return (if s.flags.ignoreSpace then skipIgnored false rest else rest).head?

inductive Element where
  /-- A character; `raw` if it is given by the two digits of a byte. -/
  | literal (c : Char) (raw : Bool)
  | dot
  | cls (set : CharClass)
  | look (condition : Look)

/-- Characters that mean something outside classes, inside them, or in comments. -/
def metaCharacters : List Char := "\\.+*?()|[]\x7b\x7d^$#&-~".toList

def isEscapable (c : Char) : Bool :=
  metaCharacters.contains c
    || (c.toNat < 128 && !c.isAlphanum && c != '<' && c != '>')

def bracedDigits : (tries : Nat) → List Nat → Parser (List Nat)
  | 0, _ => refuse
  | tries + 1, digits => do
    let c ← peek
    if c == '\x7d' then
      advance
      refuseIf digits.isEmpty
      return digits
    match Bytes.hexValue? c with
    | some d => advance; bracedDigits tries (digits ++ [d])
    | none => refuse

def fixedDigits : (count : Nat) → Parser (List Nat)
  | 0 => return []
  | count + 1 => do
    match Bytes.hexValue? (← peek) with
    | some d =>
      advance
      return d :: (← fixedDigits count)
    | none => refuse

/-- The character with a code point; surrogates and numbers past the last one are refused. -/
def characterOf (digits : List Nat) : Parser Char := do
  let n := digits.foldl (fun n d => 16 * n + d) 0
  if h : n.isValidChar then return ⟨n.toUInt32, by
    have h32 : n < UInt32.size := by
      rcases h with h | h <;> simp only [UInt32.size] <;> omega
    simpa [UInt32.isValidChar, Nat.toUInt32, UInt32.toNat_ofNat_of_lt' h32] using h⟩
  else refuse

/-- A code point in hexadecimal: in braces, or in `count` digits. -/
def hexElement (count : Nat) : Parser Element := do
  advance
  let braced := (← peek) == '\x7b'
  let digits ← if braced then do
      advance
      bracedDigits ((← get).rest.length + 1) []
    else fixedDigits count
  return .literal (← characterOf digits) (!braced && count == 2)

def bracedText : (tries : Nat) → List Char → Parser (List Char)
  | 0, _ => refuse
  | tries + 1, text => do
    let c ← peek
    if c == '\x7d' then
      drop 1
      return text
    advance
    bracedText tries (text ++ [c])

/-- The text before the first place where a word stands, and the text behind it. -/
def splitAtWord (word : List Char) (seen : List Char) : List Char → Option (List Char × List Char)
  | [] => none
  | c :: rest =>
    if word.isPrefixOf (c :: rest) then some (seen.reverse, (c :: rest).drop word.length)
    else splitAtWord word (c :: seen) rest

/-- The class that the text behind `\p` names, and whether the name itself negates it. -/
def classOfName? (text : List Char) : Option (CharClass × Bool) :=
  let parts := (splitAtWord ['!', '='] [] text).map (fun p => (p, true))
    <|> (splitAtFirst ':' text).map (fun p => (p, false))
    <|> (splitAtFirst '=' text).map (fun p => (p, false))
  match parts with
  | some ((name, value), negated) =>
    (CharClass.valued? (CharClass.looseName name) (CharClass.looseName value)).map (·, negated)
  | none => (CharClass.named? (CharClass.looseName text)).map (·, false)

/-- A class with every case variant of its members, where case is ignored. -/
def foldCase (set : CharClass) : Parser CharClass := do
  let f ← flags
  return if f.ignoreCase then .folded (!f.unicode) set else set

/-- `\p` or `\P` with one letter or a name in braces. -/
def propertyElement (negated : Bool) : Parser Element := do
  advance
  let c ← peek
  let name ← if c == '\x7b' then do
      advance
      bracedText ((← get).rest.length + 1) []
    else if c == '\\' then refuse
    else do
      advance
      pure [c]
  refuseIf !(← flags).unicode
  match classOfName? name with
  | some (set, inverse) =>
    let set ← foldCase set
    return .cls (CharClass.complementIf (negated != inverse) set)
  | none => refuse

def wordClass : Parser CharClass := do
  return if (← flags).unicode then .word else CharClass.asciiShort .word

def namedBoundary (text : List Char) (letters : CharClass) : Option Look :=
  match String.ofList text with
  | "start" => some (.wordStart false letters)
  | "end" => some (.wordEnd false letters)
  | "start-half" => some (.wordStart true letters)
  | "end-half" => some (.wordEnd true letters)
  | _ => none

def isBoundaryLetter (c : Char) : Bool := c.isAlpha || c == '-'

/-- The name of a word boundary up to the closing brace. -/
def boundaryName : (tries : Nat) → List Char → Parser (List Char)
  | 0, _ => refuse
  | tries + 1, text => do
    let c ← peek
    if isBoundaryLetter c then
      advance
      boundaryName tries (text ++ [c])
    else if c == '\x7d' then
      drop 1
      return text
    else refuse

/-- What follows `\b`: a name in braces, unless the brace starts a count. -/
def boundaryElement : Parser Element := do
  let letters ← wordClass
  if (← peek?) != some '\x7b' then return .look (.wordBoundary false letters)
  let before ← get
  advance
  if isBoundaryLetter (← peek) then
    let name ← boundaryName ((← get).rest.length + 1) []
    match namedBoundary name letters with
    | some condition => return .look condition
    | none => refuse
  else
    set before
    return .look (.wordBoundary false letters)

def shortClass (letter : Char) : Parser Element := do
  let set : CharClass := match letter.toLower with
    | 'd' => .digit
    | 's' => .blank
    | _ => .word
  let set := if (← flags).unicode then set else CharClass.asciiShort set
  return .cls (CharClass.complementIf letter.isUpper set)

def escaped : Parser Element := do
  drop 1
  let c ← peek
  let plain (value : Char) : Parser Element := do
    drop 1
    return .literal value false
  let condition (l : Look) : Parser Element := do
    drop 1
    return .look l
  if c.isDigit then refuse
  else if metaCharacters.contains c || isEscapable c then plain c
  else
    match c with
    | 'x' => hexElement 2
    | 'u' => hexElement 4
    | 'U' => hexElement 8
    | 'p' => propertyElement false
    | 'P' => propertyElement true
    | 'd' | 's' | 'w' | 'D' | 'S' | 'W' => do
      drop 1
      shortClass c
    | 'a' => plain '\x07'
    | 'f' => plain '\x0c'
    | 't' => plain '\t'
    | 'n' => plain '\n'
    | 'r' => plain '\r'
    | 'v' => plain '\x0b'
    | 'A' => condition .textStart
    | 'z' => condition .textEnd
    | 'b' => do
      drop 1
      boundaryElement
    | 'B' => do condition (.wordBoundary true (← wordClass))
    | '<' => do condition (.wordStart false (← wordClass))
    | '>' => do condition (.wordEnd false (← wordClass))
    | _ => refuse

/-- A class in brackets as far as it has been read, and how deep it is nested. -/
structure ClassPart where
  set : CharClass
  depth : Nat

def unite (parts : List ClassPart) : ClassPart :=
  match parts with
  | [] => ⟨.never, 0⟩
  | [part] => part
  | parts => ⟨CharClass.unionAll (parts.map (·.set)), (parts.map (·.depth)).foldl max 0 + 1⟩

inductive ClassOperator where
  | intersection
  | difference
  | symmetricDifference

def ClassOperator.apply : ClassOperator → CharClass → CharClass → CharClass
  | intersection, a, b => .intersection a b
  | difference, a, b => .difference a b
  | symmetricDifference, a, b => .symmetricDifference a b

def comingOperator? : Parser (Option ClassOperator) := do
  if ← comes "&&" then return some .intersection
  else if ← comes "--" then return some .difference
  else if ← comes "~~" then return some .symmetricDifference
  else return none

/-- Joins what stands to the left of an operator with what follows it. -/
def joinParts (left : Option (ClassOperator × ClassPart)) (right : ClassPart) :
    Parser ClassPart := do
  match left with
  | none => return right
  | some (op, left) =>
    let a ← foldCase left.set
    let b ← foldCase right.set
    return ⟨op.apply a b, max left.depth right.depth + 1⟩

/-- A character that is a member of a class. Without Unicode it must be a byte. -/
def memberCharacter (c : Char) (raw : Bool) : Parser Char := do
  refuseIf (!(← flags).unicode && !raw && 128 ≤ c.toNat)
  return c

def classElement : Parser Element := do
  let c ← peek
  if c == '\\' then escaped
  else
    drop 1
    return .literal c false

/-- The part of a class that an element on its own makes. -/
def partOfElement : Element → Parser ClassPart
  | .literal c raw => do
    let c ← memberCharacter c raw
    return ⟨.one c, 0⟩
  | .cls set => return ⟨set, 0⟩
  | _ => refuse

def classRange : Parser ClassPart := do
  let first ← classElement
  skipSpace
  let c ← peek
  let behind ← peekBehind?
  if c != '-' || behind == some ']' || behind == some '-' then partOfElement first
  else
    advance
    refuseIf (← atEnd)
    let last ← classElement
    match first, last with
    | .literal a rawA, .literal b rawB =>
      let a ← memberCharacter a rawA
      let b ← memberCharacter b rawB
      refuseIf (b < a)
      return ⟨.range a b, 0⟩
    | _, _ => refuse

/-- A named set between `[:` and `:]` at the front of a text, and what follows it. -/
def posixAt? (text : List Char) : Option (CharClass × Bool × List Char) := do
  let rest ← if ['[', ':'].isPrefixOf text then some (text.drop 2) else none
  let negated := rest.head? == some '^'
  let rest := if negated then rest.drop 1 else rest
  let (name, behind) ← splitAtFirst ':' rest
  let set ← CharClass.posix.lookup (String.ofList name)
  match behind with
  | ']' :: behind => some (set, negated, behind)
  | _ => none

/-- The named set that comes next, if one does. -/
def comingPosix? : Parser (Option ClassPart) := do
  match posixAt? (← get).rest with
  | some (set, negated, behind) =>
    modify fun s => { s with rest := behind }
    let set ← foldCase set
    return some ⟨CharClass.complementIf negated set, 0⟩
  | none => return none

def leadingDashes : (tries : Nat) → Parser (List ClassPart)
  | 0 => return []
  | tries + 1 => do
    if (← peek) == '-' then
      advance
      return ⟨.one '-', 0⟩ :: (← leadingDashes tries)
    else return []

/-- The front of a class: whether it is negated, and members that mean something elsewhere. -/
def classFront : Parser (Bool × List ClassPart) := do
  advance
  let negated := (← peek) == '^'
  if negated then advance
  let dashes ← leadingDashes (← get).rest.length
  if dashes.isEmpty && (← peek) == ']' then
    advance
    refuseIf (← atEnd)
    return (negated, [⟨.one ']', 0⟩])
  else return (negated, dashes)

mutual

def bracketClass : (tries : Nat) → Parser ClassPart
  | 0 => refuse
  | tries + 1 => do
    let (negated, front) ← classFront
    let inner ← classParts tries none front
    let set ← foldCase inner.set
    return ⟨CharClass.complementIf negated set, inner.depth + 1⟩

def classParts (tries : Nat) (left : Option (ClassOperator × ClassPart)) (parts : List ClassPart) :
    Parser ClassPart :=
  match tries with
  | 0 => refuse
  | tries + 1 => do
    skipSpace
    let c ← peek
    if c == '[' then
      match ← comingPosix? with
      | some part => classParts tries left (parts ++ [part])
      | none =>
        let part ← bracketClass tries
        classParts tries left (parts ++ [part])
    else if c == ']' then
      drop 1
      joinParts left (unite parts)
    else
      match ← comingOperator? with
      | some op =>
        drop 2
        let joined ← joinParts left (unite parts)
        classParts tries (some (op, joined)) []
      | none =>
        let part ← classRange
        classParts tries left (parts ++ [part])

end

/-- A part of a pattern, and how deep it is nested. -/
structure Node where
  expr : Expr
  depth : Nat
  /-- Whether it can be repeated; a change of flags cannot. -/
  repeatable : Bool := true

/-- A class as a part of the pattern. Without Unicode it must not reach beyond ASCII. -/
def classNode (set : CharClass) (depth : Nat) : Parser Node := do
  refuseIf (!(← flags).unicode && set.hasHighByte)
  return ⟨.one set, depth, true⟩

def elementNode (e : Element) : Parser Node := do
  let f ← flags
  match e with
  | .literal c raw =>
    refuseIf (!f.unicode && raw && 128 ≤ c.toNat)
    if f.ignoreCase && (f.unicode || c.toNat < 128) then
      return ⟨.one (.folded (!f.unicode) (.one c)), 0, true⟩
    else return ⟨.one (.one c), 0, true⟩
  | .cls set => classNode set 0
  | .look condition => return ⟨.look condition, 0, true⟩
  | .dot =>
    refuseIf !f.unicode
    let breaks : CharClass :=
      if f.dotAll then .never
      else if f.crlf then .union (.one '\r') (.one '\n')
      else .one '\n'
    return ⟨.one (.complement breaks), 0, true⟩

def element : Parser Node := do
  let f ← flags
  match ← peek with
  | '\\' => do elementNode (← escaped)
  | '.' => do
    drop 1
    elementNode .dot
  | '^' => do
    drop 1
    elementNode (.look (if f.multiLine then .lineStart f.crlf else .textStart))
  | '$' => do
    drop 1
    elementNode (.look (if f.multiLine then .lineEnd f.crlf else .textEnd))
  | c => do
    drop 1
    elementNode (.literal c false)

def concatenate (parts : List Node) : Node :=
  match parts with
  | [] => ⟨.empty, 0, true⟩
  | [part] => part
  | parts => ⟨Expr.sequenceAll (parts.map (·.expr)), (parts.map (·.depth)).foldl max 0 + 1, true⟩

def alternatives (parts : List Node) : Node :=
  match parts with
  | [part] => part
  | parts => ⟨Expr.choiceAll (parts.map (·.expr)), (parts.map (·.depth)).foldl max 0 + 1, true⟩

def repeatLast (parts : List Node) (least : Nat) (most : Option Nat) : Parser (List Node) := do
  match parts.getLast? with
  | some last =>
    refuseIf !last.repeatable
    return parts.dropLast ++ [⟨last.expr.repeated least most, last.depth + 1, true⟩]
  | none => refuse

def skipBlanks : Parser Unit := modify fun s => { s with rest := s.rest.dropWhile isBlank }

def countDigits : (tries : Nat) → List Nat → Parser (List Nat)
  | 0, digits => return digits
  | tries + 1, digits => do
    match ← peek? with
    | some c =>
      if c.isDigit then
        advance
        countDigits tries (digits ++ [c.toNat - 48])
      else return digits
    | none => return digits

/-- A count below two to the power 32. -/
def count : Parser Nat := do
  skipBlanks
  let digits ← countDigits (← get).rest.length []
  skipBlanks
  refuseIf digits.isEmpty
  let n := digits.foldl (fun n d => 10 * n + d) 0
  refuseIf (4294967295 < n)
  return n

def skipModesty : Parser Unit := do
  if (← peek?) == some '?' then drop 1

def countedRepetition (parts : List Node) : Parser (List Node) := do
  refuseIf (parts.getLast?.all fun part => !part.repeatable)
  advance
  let least ← count
  let c ← peek
  let most ← if c == ',' then do
      advance
      if (← peek) == '\x7d' then pure none
      else pure (some (← count))
    else pure (some least)
  refuseIf ((← peek) != '\x7d')
  advance
  skipModesty
  refuseIf (most.any (· < least))
  repeatLast parts least most

/-- What the name of a group may start with, and go on with. -/
def isGroupLetter (first : Bool) (c : Char) : Bool :=
  c == '_' || Unicode.isAlphabetic c
    || (!first && (c == '.' || c == '[' || c == ']' || (Unicode.category c).group == 'N'))

def groupName : (tries : Nat) → List Char → Parser (List Char)
  | 0, _ => refuse
  | tries + 1, text => do
    let c ← peek
    if c == '>' then
      drop 1
      refuseIf text.isEmpty
      return text
    else
      refuseIf !isGroupLetter text.isEmpty c
      drop 1
      groupName tries (text ++ [c])

/-- Flags up to a colon or a closing parenthesis, as they are written, and that character. -/
def flagItems : (tries : Nat) → List Char → Parser (List Char × Char)
  | 0, _ => refuse
  | tries + 1, items => do
    let c ← peek
    if c == ':' || c == ')' then
      refuseIf (items.getLast? == some '-')
      drop 1
      return (items, c)
    else
      refuseIf (items.contains c)
      refuseIf !(c == '-' || flagLetters.contains c)
      drop 1
      flagItems tries (items ++ [c])

/-- Flags as written: those behind a dash are cleared. -/
def applyFlags (f : Flags) (value : Bool) : List Char → Flags
  | [] => f
  | '-' :: rest => applyFlags f false rest
  | c :: rest => applyFlags (f.set c value) value rest

mutual

def group : (tries : Nat) → Parser Node
  | 0 => refuse
  | tries + 1 => do
    drop 1
    skipSpace
    if (← comes "?=") || (← comes "?!") || (← comes "?<=") || (← comes "?<!") then refuse
    let outer ← flags
    if (← comes "?P<") || (← comes "?<") then
      drop (if ← comes "?P<" then 3 else 2)
      let name ← groupName ((← get).rest.length + 1) []
      refuseIf ((← get).names.contains name)
      modify fun s => { s with names := name :: s.names }
      groupBody tries outer
    else if ← comes "?" then
      drop 1
      let (items, last) ← flagItems ((← get).rest.length + 1) []
      if last == ')' then
        refuseIf items.isEmpty
        setFlags (applyFlags outer true items)
        return ⟨.empty, 0, false⟩
      else
        setFlags (applyFlags outer true items)
        groupBody tries outer
    else groupBody tries outer

/-- The inside of a group and its closing parenthesis. The flags are then as before the group. -/
def groupBody (tries : Nat) (outer : Flags) : Parser Node :=
  match tries with
  | 0 => refuse
  | tries + 1 => do
    let inner ← choices tries [] []
    refuseIf ((← peek) != ')')
    drop 1
    setFlags outer
    return ⟨inner.expr, inner.depth + 1, true⟩

/-- Alternatives up to the end of the pattern or of the group. -/
def choices (tries : Nat) (done : List Node) (parts : List Node) : Parser Node :=
  match tries with
  | 0 => refuse
  | tries + 1 => do
    skipSpace
    match ← peek? with
    | none | some ')' => return alternatives (done ++ [concatenate parts])
    | some '|' =>
      drop 1
      choices tries (done ++ [concatenate parts]) []
    | some '(' =>
      let node ← group tries
      choices tries done (parts ++ [node])
    | some '[' =>
      let part ← bracketClass tries
      let node ← classNode part.set part.depth
      choices tries done (parts ++ [node])
    | some '\x7b' =>
      let parts ← countedRepetition parts
      choices tries done parts
    | some c =>
      let bounds : Option (Nat × Option Nat) := match c with
        | '?' => some (0, some 1)
        | '*' => some (0, none)
        | '+' => some (1, none)
        | _ => none
      match bounds with
      | some (least, most) =>
        let parts ← repeatLast parts least most
        drop 1
        skipModesty
        choices tries done parts
      | none =>
        let node ← element
        choices tries done (parts ++ [node])

end

def maxNesting : Nat := 250

def maxWeight : Nat := 10485760

def whole : Parser Node := do
  let node ← choices (3 * (← get).rest.length + 4) [] []
  refuseIf !(← atEnd)
  refuseIf (maxNesting < node.depth)
  return node

def parse (text : String) : Except Fault Expr := do
  let (node, _) ← whole.run { rest := text.toList, flags := {}, names := [] }
  if maxWeight < node.expr.weight then throw .tooLarge
  return node.expr

/-- The report of a fault; what is said about a malformed pattern beyond that is left open. -/
def Fault.message : Fault → String
  | .malformed => "regex parse error:"
  | .tooLarge => s!"Compiled regex exceeds size limit of {maxWeight} bytes."

end ClassSwap.Pattern
