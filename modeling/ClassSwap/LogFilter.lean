import ClassSwap.Blank
import ClassSwap.Config
import ClassSwap.Log
import ClassSwap.Path
import ClassSwap.Unicode.Property

namespace ClassSwap

structure Directive where
  area : Option String
  level : LogLevel
  /-- It speaks of spans only, within which no event is reported here. -/
  spanOnly : Bool := false
  /-- It depends on the values of fields. -/
  byValue : Bool := false
  deriving DecidableEq, Repr

structure LogFilter where
  directives : List Directive
  /-- The most talkative level of any directive that has been added. -/
  hint : LogLevel
  deriving DecidableEq, Repr

namespace LogFilter

def number? (text : List Char) : Option Nat :=
  let digits := match text with
    | '+' :: rest => rest
    | text => text
  if digits.isEmpty || !digits.all Char.isDigit then none
  else some (digits.foldl (fun n c => 10 * n + (c.toNat - 48)) 0)

/-- A level by its name in any case, or by its number. -/
def level? (text : List Char) : Option LogLevel :=
  match number? text with
  | some n => LogLevel.all[n]?
  | none =>
    let name := String.ofList (text.map Char.toLower)
    LogLevel.all.find? (·.name == name)

/-- The level behind an equals sign; without a text it is the most talkative one. -/
def levelOrAll? (text : List Char) : Option LogLevel :=
  if text.isEmpty then some .trace else level? text

/-- A level on its own, or an area whose every event is let through. -/
def levelOrArea (text : List Char) : Directive :=
  match level? text with
  | some level => { area := none, level }
  | none => { area := some (String.ofList text), level := .trace }

/-- A directive for spans: what stands in brackets, and a level behind it. -/
def spanDirective? (area : Option String) (text : List Char) : Option Directive := do
  let (content, rest) ← splitAtFirst ']' text
  let byValue := content.contains '\x7b' && content.contains '='
  match rest with
  | [] => some { area, level := .trace, spanOnly := true, byValue }
  | '=' :: level => do
    let level ← levelOrAll? level
    return { area, level, spanOnly := true, byValue }
  | _ => none

def isAreaStart (c : Char) : Bool :=
  c == '-' || c == ':' || c == '_' || Unicode.isAlphabetic c || (Unicode.category c).group == 'N'

/-- Reads one directive. Places are counted without the white space in front. -/
def directive? (text : List Char) : Option Directive :=
  match trimBlank text with
  | [] => none
  | '[' :: rest => spanDirective? none rest
  | c :: rest =>
    if !isAreaStart c then none
    else
      let place := (c :: rest).findIdx fun d => d == '=' || d == '['
      let area := String.ofList (text.take place)
      match (c :: rest).drop place with
      | [] => some (levelOrArea text)
      | '=' :: _ => do
        let level ← levelOrAll? (text.drop (place + 1))
        return { area := some area, level }
      | _ :: behind => spanDirective? (some area) behind

/-- Adds a directive; it takes the place of one for the same area. -/
def add (f : LogFilter) (d : Directive) : LogFilter :=
  let kept := f.directives.filter fun other =>
    !(other.area == d.area && other.spanOnly == d.spanOnly)
  ⟨kept ++ [d], f.hint.max (if d.byValue then .trace else d.level)⟩

/-- The filter of directives in their order. Without any, nothing is let through. -/
def ofDirectives (directives : List Directive) : LogFilter :=
  directives.foldl add ⟨[], .off⟩

/-- Reads directives between commas, empty ones left out; one that is malformed spoils all. -/
def ofText? (text : String) : Option LogFilter := do
  let parts := (splitOnChar ',' text.toList).filter fun part => !part.isEmpty
  return ofDirectives (← parts.mapM directive?)

/-- The filter for events of the level `info` and graver ones. -/
def standard : LogFilter := ofDirectives [{ area := none, level := .info }]

/-- The configured level as a text of directives. Plain level names are matched in any case. -/
def configuredText (level : String) : String :=
  let level := trimmed level
  let name := lowerAscii level
  if name == "" then "info"
  else if name == "warning" then "warn"
  else if LogLevel.all.any (·.name == name) then name
  else level

/-- The filter of a configured level and of further directives from the environment. -/
def ofSettings (level : String) (environment : Option String) : LogFilter :=
  let more := match environment with
    | some text => if (trimmed text).isEmpty then [] else [trimmed text]
    | none => []
  (ofText? (",".intercalate (configuredText level :: more))).getD standard

def applies (d : Directive) (area : String) : Bool :=
  !d.spanOnly && match d.area with
    | none => true
    | some front => front.toList.isPrefixOf area.toList

def specificity (d : Directive) : Nat :=
  match d.area with
  | none => 0
  | some front => front.utf8ByteSize + 1

def deciding? (f : LogFilter) (area : String) : Option Directive :=
  (f.directives.filter fun d => applies d area).foldl
    (fun best d =>
      match best with
      | none => some d
      | some b => if specificity b < specificity d then some d else some b) none

def lets (f : LogFilter) (e : LogEvent) : Bool :=
  match f.deciding? e.area with
  | some d => e.level.rank ≤ d.level.rank
  | none => false

end LogFilter

end ClassSwap
