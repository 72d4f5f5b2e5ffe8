import ClassSwap.Blank
import ClassSwap.Unicode.CaseFold
import ClassSwap.Unicode.Category
import ClassSwap.Unicode.Property
import ClassSwap.Unicode.Script

namespace ClassSwap.Pattern

inductive CharClass where
  | never
  | range (low high : Char)
  | digit
  | blank
  | word
  /-- A group of general categories, or one of them. -/
  | category (group : Char) (kind : Option Char)
  | script (number : Nat)
  | property (number : Nat)
  | union (a b : CharClass)
  | intersection (a b : CharClass)
  | difference (a b : CharClass)
  | symmetricDifference (a b : CharClass)
  | complement (a : CharClass)
  /-- Everything that differs from a member in case only. -/
  | folded (asciiOnly : Bool) (a : CharClass)
  deriving DecidableEq, Repr

namespace CharClass

def otherCase (c : Char) : Char := if c.isUpper then c.toLower else c.toUpper

def contains (cls : CharClass) (c : Char) : Bool :=
  match cls with
  | never => false
  | range low high => low ≤ c && c ≤ high
  | digit => Unicode.isDigit c
  | blank => isBlank c
  | word => Unicode.isWord c
  | category group kind =>
    let k := Unicode.category c
    k.group == group && (kind.isNone || kind == some k.kind)
  | script number => Unicode.isInScript number c
  | property number => Unicode.hasProperty number c
  | union a b => a.contains c || b.contains c
  | intersection a b => a.contains c && b.contains c
  | difference a b => a.contains c && !b.contains c
  | symmetricDifference a b => a.contains c != b.contains c
  | complement a => !a.contains c
  | folded true a => a.contains c || a.contains (otherCase c)
  | folded false a => (Unicode.caseVariants c).any a.contains

def any : CharClass := complement never

def one (c : Char) : CharClass := range c c

def unionAll (classes : List CharClass) : CharClass := classes.foldr union never

/-- The class, or what is not in it. -/
def complementIf (negated : Bool) (cls : CharClass) : CharClass :=
  if negated then complement cls else cls

/-- Whether the class holds a byte beyond ASCII, when its members are taken for bytes. -/
def hasHighByte (cls : CharClass) : Bool :=
  (List.range 128).any fun i => cls.contains (Char.ofNat (128 + i))

/-- An estimate of the bytes that a compiled class takes. -/
def weight : CharClass → Nat
  | never => 32
  | range _ high => if high.toNat < 128 then 40 else 400
  | digit => 5000
  | blank => 800
  | word => 20000
  | category .. | property _ => 12000
  | script _ => 1000
  | union a b | intersection a b | difference a b | symmetricDifference a b => a.weight + b.weight
  | complement a => a.weight + 400
  | folded _ a => 2 * a.weight

/-- The sets between `[:` and `:]`, of ASCII characters only. -/
def posix : List (String × CharClass) :=
  let lower := range 'a' 'z'
  let upper := range 'A' 'Z'
  let digits := range '0' '9'
  let punct := unionAll [range '!' '/', range ':' '@', range '[' '\x60', range '\x7b' '~']
  [("alnum", unionAll [digits, upper, lower]), ("alpha", union upper lower),
    ("ascii", range '\x00' '\x7f'), ("blank", union (one '\t') (one ' ')),
    ("cntrl", union (range '\x00' '\x1f') (one '\x7f')), ("digit", digits), ("graph", range '!' '~'),
    ("lower", lower), ("print", range ' ' '~'), ("punct", punct),
    ("space", union (range '\t' '\r') (one ' ')), ("upper", upper),
    ("word", unionAll [digits, upper, one '_', lower]),
    ("xdigit", unionAll [digits, range 'A' 'F', range 'a' 'f'])]

def asciiShort : CharClass → CharClass
  | digit => range '0' '9'
  | blank => union (range '\t' '\r') (one ' ')
  | word => unionAll [range '0' '9', range 'A' 'Z', one '_', range 'a' 'z']
  | cls => cls

def categories : List (List String × CharClass) :=
  let kind (group k : Char) : CharClass := category group (some k)
  [(["l", "letter"], category 'L' none),
    (["lc", "casedletter"], unionAll [kind 'L' 'u', kind 'L' 'l', kind 'L' 't']),
    (["lu", "uppercaseletter"], kind 'L' 'u'), (["ll", "lowercaseletter"], kind 'L' 'l'),
    (["lt", "titlecaseletter"], kind 'L' 't'), (["lm", "modifierletter"], kind 'L' 'm'),
    (["lo", "otherletter"], kind 'L' 'o'), (["m", "mark", "combiningmark"], category 'M' none),
    (["mn", "nonspacingmark"], kind 'M' 'n'), (["mc", "spacingmark"], kind 'M' 'c'),
    (["me", "enclosingmark"], kind 'M' 'e'), (["n", "number"], category 'N' none),
    (["nd", "decimalnumber", "digit"], kind 'N' 'd'), (["nl", "letternumber"], kind 'N' 'l'),
    (["no", "othernumber"], kind 'N' 'o'), (["p", "punctuation", "punct"], category 'P' none),
    (["pc", "connectorpunctuation"], kind 'P' 'c'), (["pd", "dashpunctuation"], kind 'P' 'd'),
    (["ps", "openpunctuation"], kind 'P' 's'), (["pe", "closepunctuation"], kind 'P' 'e'),
    (["pi", "initialpunctuation"], kind 'P' 'i'), (["pf", "finalpunctuation"], kind 'P' 'f'),
    (["po", "otherpunctuation"], kind 'P' 'o'), (["s", "symbol"], category 'S' none),
    (["sm", "mathsymbol"], kind 'S' 'm'), (["sc", "currencysymbol"], kind 'S' 'c'),
    (["sk", "modifiersymbol"], kind 'S' 'k'), (["so", "othersymbol"], kind 'S' 'o'),
    (["z", "separator"], category 'Z' none), (["zs", "spaceseparator"], kind 'Z' 's'),
    (["zl", "lineseparator"], kind 'Z' 'l'), (["zp", "paragraphseparator"], kind 'Z' 'p'),
    (["c", "other"], category 'C' none), (["cc", "control", "cntrl"], kind 'C' 'c'),
    (["cf", "format"], kind 'C' 'f'), (["cn", "unassigned"], kind 'C' 'n'),
    (["co", "privateuse"], kind 'C' 'o'), (["any"], any),
    (["assigned"], complement (kind 'C' 'n')), (["ascii"], range '\x00' '\x7f')]

/-- A name in the form that names are compared in: lower case, no separators, no leading `is`. -/
def looseName (name : List Char) : String :=
  let lower (cs : List Char) := cs.map Char.toLower
  let keep (c : Char) : Bool := c != ' ' && c != '_' && c != '-' && c.toNat < 128
  let (cut, body) := match lower (name.take 2) with
    | ['i', 's'] => (true, name.drop 2)
    | _ => (false, name)
  let text := String.ofList (lower (body.filter keep))
  if cut && text == "c" then "isc" else text

def categoryNamed? (name : String) : Option CharClass :=
  (categories.find? (·.1.contains name)).map (·.2)

def scriptNamed? (name : String) : Option CharClass := (Unicode.scriptNumber? name).map script

/-- The class with a name on its own. Three short names that stand for something else besides are
taken for categories. -/
def named? (name : String) : Option CharClass :=
  let byProperty :=
    if ["cf", "sc", "lc"].contains name then none
    else (Unicode.propertyNumber? name).map property
  byProperty <|> categoryNamed? name <|> scriptNamed? name

def valued? (name value : String) : Option CharClass :=
  if ["gc", "generalcategory", "category"].contains name then categoryNamed? value
  else if ["sc", "script", "scx", "scriptextensions"].contains name then scriptNamed? value
  else none

end CharClass

end ClassSwap.Pattern
