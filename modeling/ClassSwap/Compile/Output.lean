import ClassSwap.Blank
import ClassSwap.Utf8

namespace ClassSwap.CompilerOutput

def dropReturn (line : Bytes) : Bytes :=
  if line.getLast? = some 13 then line.dropLast else line

/-- The lines of a stream. Each ends in a line feed but the last, which need not. `front` is what
has been read of the current line, last byte first. -/
def splitLines (front : Bytes) : Bytes → List Bytes
  | [] => if front.isEmpty then [] else [front.reverse]
  | b :: rest =>
    if b = 10 then dropReturn front.reverse :: splitLines [] rest else splitLines (b :: front) rest

/-- Lines up to the first one that is not text. -/
def textLines : List Bytes → List String
  | [] => []
  | line :: rest =>
    match Utf8.toString? line with
    | some text => text :: textLines rest
    | none => []

def lines (stream : Bytes) : List String := textLines (splitLines [] stream)

/-- The longest message that is kept whole, in bytes. -/
def maxMessage : Nat := 8192

/-- The longest front of a text that takes at most `room` bytes. -/
def fit (room : Nat) : List Char → List Char
  | [] => []
  | c :: rest => if c.utf8Size ≤ room then c :: fit (room - c.utf8Size) rest else []

def truncated (limit : Nat) (text : List Char) : String :=
  if Utf8.size text ≤ limit then String.ofList text
  else String.ofList (fit limit text) ++ "\n<output truncated>"

def failureText (stdout stderr : List String) : String :=
  let text := trimBlank ("\n".intercalate (stdout ++ stderr)).toList
  if text.isEmpty then "javac exited with an error and printed nothing"
  else truncated maxMessage text

end ClassSwap.CompilerOutput
