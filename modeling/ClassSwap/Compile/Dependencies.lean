import ClassSwap.ClassName
import ClassSwap.Source.Reference

namespace ClassSwap.Dependencies

/-- A dotted name and what remains of it as its last parts are dropped one after the other. -/
def shortenings (name : List Char) : List (List Char) :=
  match _h : splitAtLast '.' name with
  | some (before, _) => name :: shortenings before
  | none => [name]
termination_by name.length
decreasing_by exact splitAtLast_lt _h

/-- The spellings of a name with its last dots replaced by `$`: none, the last, the last two, and so
on. `dots` is the number of dots that may still be replaced. -/
def spellingsFrom : (dots : Nat) → List Char → List (List Char)
  | 0, name => [name]
  | dots + 1, name =>
    match splitAtLast '.' name with
    | some (before, after) => name :: spellingsFrom dots (before ++ '$' :: after)
    | none => [name]

def spellings (name : List Char) : List (List Char) := spellingsFrom (name.count '.') name

/-- The loaded class that a reference names: the longest part of it that can be spelled as one, with
as few `$` as possible. -/
def resolve? (loaded : List ClassName) (reference : String) : Option ClassName :=
  ((shortenings reference.toList).flatMap spellings).findSome? fun name =>
    loaded.find? (· == ⟨String.ofList name⟩)

def eligible (units : List SourceUnit) (loaded : List ClassName) : List ClassName :=
  let compiling := units.map (·.className.topLevel)
  loaded.filter fun c => !c.isPlatform && !compiling.contains c.topLevel

def references (text : String) : List String :=
  ((Source.imports text).filter fun i => i.isStatic || !i.onDemand).map (·.name)
    ++ Source.qualifiedNames text

/-- The packages that a unit sees whole: its own and those imported on demand. -/
def packages (u : SourceUnit) : List String :=
  u.className.packageText
    :: ((Source.imports u.text).filter fun i => !i.isStatic && i.onDemand).map (·.name)

/-- The classes that the units name or see, without their families. -/
def direct (units : List SourceUnit) (candidates : List ClassName) : List ClassName :=
  let named := (units.flatMap fun u => references u.text).filterMap (resolve? candidates)
  let seen := units.flatMap packages
  named ++ candidates.filter fun c => seen.contains c.packageText

/-- The classes to put on the class path, sorted and each once. -/
def select (units : List SourceUnit) (loaded : List ClassName) : List ClassName :=
  let candidates := eligible units loaded
  let picked := direct units candidates
  let families := picked.map (·.topLevel)
  let relatives := candidates.filter fun c =>
    families.contains c.topLevel && (c.isNested || candidates.contains c.topLevel)
  ClassName.sortedSet (picked ++ relatives)

end ClassSwap.Dependencies
