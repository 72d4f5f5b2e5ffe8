import ClassSwap.Bytes

namespace ClassSwap

inductive Json where
  | null
  | bool (value : Bool)
  | natural (value : Nat)
  | string (value : String)
  | array (items : List Json)
  | object (members : List (String × Json))
  deriving Inhabited

namespace Json

/-- One character inside a JSON string. Only the quote, the backslash and the controls below the
space are escaped. -/
def escaped (c : Char) : List Char :=
  if c = '"' then ['\\', '"']
  else if c = '\\' then ['\\', '\\']
  else if c = '\x08' then ['\\', 'b']
  else if c = '\x0c' then ['\\', 'f']
  else if c = '\n' then ['\\', 'n']
  else if c = '\r' then ['\\', 'r']
  else if c = '\t' then ['\\', 't']
  else if c.toNat < 32 then
    ['\\', 'u', '0', '0', Bytes.hexDigit (c.toNat / 16), Bytes.hexDigit (c.toNat % 16)]
  else [c]

def quoted (text : String) : List Char :=
  '"' :: text.toList.flatMap escaped ++ ['"']

mutual

/-- The compact form, without any white space. -/
def compact : Json → List Char
  | null => "null".toList
  | bool true => "true".toList
  | bool false => "false".toList
  | natural n => Nat.toDigits 10 n
  | string s => quoted s
  | array [] => ['[', ']']
  | array (x :: xs) => '[' :: compact x ++ compactItems xs
  | object [] => ['{', '}']
  | object ((k, x) :: xs) => '{' :: quoted k ++ ':' :: compact x ++ compactMembers xs

def compactItems : List Json → List Char
  | [] => [']']
  | x :: xs => ',' :: compact x ++ compactItems xs

def compactMembers : List (String × Json) → List Char
  | [] => ['}']
  | (k, x) :: xs => ',' :: quoted k ++ ':' :: compact x ++ compactMembers xs

end

/-- A new line that is indented by two spaces a level. -/
def newline (level : Nat) : List Char := '\n' :: List.replicate (2 * level) ' '

mutual

/-- The form with one item or member a line; empty arrays and objects stay on one line. -/
def pretty (level : Nat) : Json → List Char
  | array [] => ['[', ']']
  | array (x :: xs) =>
    '[' :: newline (level + 1) ++ pretty (level + 1) x ++ prettyItems level xs
  | object [] => ['{', '}']
  | object ((k, x) :: xs) =>
    '{' :: newline (level + 1) ++ quoted k ++ [':', ' '] ++ pretty (level + 1) x
      ++ prettyMembers level xs
  | null => "null".toList
  | bool true => "true".toList
  | bool false => "false".toList
  | natural n => Nat.toDigits 10 n
  | string s => quoted s

def prettyItems (level : Nat) : List Json → List Char
  | [] => newline level ++ [']']
  | x :: xs => ',' :: newline (level + 1) ++ pretty (level + 1) x ++ prettyItems level xs

def prettyMembers (level : Nat) : List (String × Json) → List Char
  | [] => newline level ++ ['}']
  | (k, x) :: xs =>
    ',' :: newline (level + 1) ++ quoted k ++ [':', ' '] ++ pretty (level + 1) x
      ++ prettyMembers level xs

end

def text (j : Json) : String := String.ofList j.compact

def prettyText (j : Json) : String := String.ofList (j.pretty 0)

/-- A member that is left out when there is no value. -/
def optional (name : String) (value : Option Json) : List (String × Json) :=
  match value with
  | some v => [(name, v)]
  | none => []

end Json

end ClassSwap
