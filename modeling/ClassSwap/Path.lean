namespace ClassSwap

/-- The pieces between the separators of a text, empty pieces included. -/
def splitOnChar (sep : Char) : List Char → List (List Char)
  | [] => [[]]
  | c :: rest =>
    if c = sep then [] :: splitOnChar sep rest
    else
      match splitOnChar sep rest with
      | [] => [[c]]
      | piece :: pieces => (c :: piece) :: pieces

/-- The longest text before the last `sep`, and the text after it. -/
def splitAtLast (sep : Char) (text : List Char) : Option (List Char × List Char) :=
  match text.reverse.dropWhile (· ≠ sep) with
  | _ :: before => some (before.reverse, (text.reverse.takeWhile (· ≠ sep)).reverse)
  | [] => none

/-- The text before the first `sep`, and the text after it. -/
def splitAtFirst (sep : Char) (text : List Char) : Option (List Char × List Char) :=
  match text.dropWhile (· ≠ sep) with
  | _ :: after => some (text.takeWhile (· ≠ sep), after)
  | [] => none

theorem splitAtLast_eq {sep : Char} {text before after : List Char}
    (h : splitAtLast sep text = some (before, after)) : text = before ++ sep :: after := by
  unfold splitAtLast at h
  split at h
  next c rest found =>
    have first := List.head?_dropWhile_not (fun c => decide (c ≠ sep)) text.reverse
    have whole := List.takeWhile_append_dropWhile (p := fun c => decide (c ≠ sep))
      (l := text.reverse)
    rw [found] at first whole
    have here : c = sep := by simpa using first
    cases h
    calc text = text.reverse.reverse := (List.reverse_reverse text).symm
      _ = (text.reverse.takeWhile (· ≠ sep) ++ c :: rest).reverse := by rw [whole]
      _ = rest.reverse ++ sep :: (text.reverse.takeWhile (· ≠ sep)).reverse := by simp [here]
  · cases h

theorem splitAtLast_lt {sep : Char} {text before after : List Char}
    (h : splitAtLast sep text = some (before, after)) : before.length < text.length := by
  have whole := congrArg List.length (splitAtLast_eq h)
  simp only [List.length_append, List.length_cons] at whole
  omega

namespace Path

def isAbsolute (path : String) : Bool := path.toList.head? == some '/'

/-- `name` below `base`. An absolute name replaces the base; an empty name leaves a trailing
separator. -/
def join (base name : String) : String :=
  if isAbsolute name then name
  else if base.isEmpty || base.toList.getLast? == some '/' then base ++ name
  else base ++ "/" ++ name

/-- The parts of a path in order, without empty parts and without `.` except in front. -/
def parts (path : String) : List String :=
  let pieces := (splitOnChar '/' path.toList).map String.ofList
  match pieces with
  | "." :: rest => "." :: rest.filter fun p => p != "" && p != "."
  | _ => pieces.filter fun p => p != "" && p != "."

def ofParts (absolute : Bool) (parts : List String) : String :=
  (if absolute then "/" else "") ++ "/".intercalate parts

/-- The path without its last part; the root and the empty path have none. -/
def parent? (path : String) : Option String :=
  match parts path with
  | [] => none
  | ps => some (ofParts (isAbsolute path) ps.dropLast)

/-- The last part, unless it only navigates. -/
def fileName? (path : String) : Option String :=
  match (parts path).getLast? with
  | some name => if name == ".." || name == "." then none else some name
  | none => none

/-- A file name before its last dot, and the text after that dot; a dot in front does not count. -/
def splitName (name : String) : String × Option String :=
  match splitAtLast '.' name.toList with
  | some ([], _) => (name, none)
  | some (stem, ext) => (String.ofList stem, some (String.ofList ext))
  | none => (name, none)

def stem? (path : String) : Option String := (fileName? path).map fun n => (splitName n).1

/-- The steps of a path in order: the root, if the path starts there, and the parts. -/
def steps (path : String) : List String :=
  if isAbsolute path then "/" :: parts path else parts path

/-- How a path goes on behind a base that it begins with, step by step. -/
def stripBase? (base path : String) : Option (List String) :=
  if (steps base).isPrefixOf (steps path) then some ((steps path).drop (steps base).length)
  else none

def isDown (step : String) : Bool := step != "/" && step != "." && step != ".."

end Path

end ClassSwap
