import ClassSwap.Path
import ClassSwap.Save.Naming

namespace ClassSwap.CommandLine

inductive OptionKind where
  | flag
  | text
  /-- A text that is not empty. -/
  | path
  | number (limit : Nat)
  | naming
  deriving DecidableEq, Repr

structure OptionForm where
  name : String
  letter : Option Char := none
  kind : OptionKind
  repeatable : Bool := false
  deriving DecidableEq, Repr

inductive Stop where
  | misuse
  | help
  | version
  deriving DecidableEq, Repr

/-- What a list of arguments says: options with their values in order, and the other words. -/
structure Given where
  options : List (String × String) := []
  words : List String := []
  deriving DecidableEq, Repr

namespace Given

def has (g : Given) (name : String) : Bool := g.options.any (·.1 == name)

def value? (g : Given) (name : String) : Option String := g.options.lookup name

def values (g : Given) (name : String) : List String :=
  (g.options.filter (·.1 == name)).map (·.2)

end Given

def integer? (text : String) : Option Int :=
  let digits? (cs : List Char) : Option Nat :=
    if cs.isEmpty || !cs.all Char.isDigit then none
    else some (cs.foldl (fun n c => 10 * n + (c.toNat - 48)) 0)
  match text.toList with
  | '-' :: rest => (digits? rest).map fun n => -(n : Int)
  | '+' :: rest => (digits? rest).map Int.ofNat
  | cs => (digits? cs).map Int.ofNat

def natural? (limit : Nat) (text : String) : Option Nat :=
  match integer? text with
  | some (.ofNat n) => if n ≤ limit then some n else none
  | _ => none

def OptionKind.accepts (kind : OptionKind) (value : String) : Bool :=
  match kind with
  | .flag => false
  | .text => true
  | .path => !value.isEmpty
  | .number limit => (natural? limit value).isSome
  | .naming => (Naming.ofText? value).isSome

inductive Shape where
  | word
  /-- The mark behind which there are only words. -/
  | mark
  | long (name : String) (value : Option String)
  | short (letter : Char) (value : Option String)
  deriving DecidableEq, Repr

def shapeOf (argument : String) : Shape :=
  match argument.toList with
  | ['-', '-'] => .mark
  | '-' :: '-' :: rest =>
    match splitAtFirst '=' rest with
    | some (name, value) => .long (String.ofList name) (some (String.ofList value))
    | none => .long (String.ofList rest) none
  | ['-'] => .word
  | '-' :: letter :: '=' :: value => .short letter (some (String.ofList value))
  | ['-', letter] => .short letter none
  | '-' :: letter :: value => .short letter (some (String.ofList value))
  | _ => .word

/-- Adds an option with its value; most may be given once only. -/
def record (form : OptionForm) (value : String) (g : Given) : Except Stop Given :=
  if g.has form.name && !form.repeatable then .error .misuse
  else .ok { g with options := g.options ++ [(form.name, value)] }

def recordValue (form : OptionForm) (value : String) (g : Given) : Except Stop Given :=
  if form.kind.accepts value then record form value g else .error .misuse

/-- Where the reading stops at its first word, the arguments from there on are left over. -/
structure Reading where
  given : Given
  rest : List String

/-- Reads arguments from the left. `special` names options that end the reading at once, and with
`stops` set it ends at the first word. -/
def read (forms : List OptionForm) (special : Shape → Option Stop) (stops : Bool) (g : Given) :
    List String → Except Stop Reading
  | [] => .ok ⟨g, []⟩
  | argument :: rest =>
    let shape := shapeOf argument
    match special shape with
    | some stop => .error stop
    | none =>
      let found : Option (OptionForm × Option String) :=
        match shape with
        | .long name value => (forms.find? (·.name == name)).map fun form => (form, value)
        | .short letter value =>
          (forms.find? (·.letter == some letter)).map fun form => (form, value)
        | _ => none
      match shape, found with
      | .word, _ =>
        if stops then .ok ⟨g, argument :: rest⟩
        else read forms special stops { g with words := g.words ++ [argument] } rest
      | .mark, _ => .ok ⟨{ g with words := g.words ++ rest }, []⟩
      | _, none => .error .misuse
      | _, some (form, some value) =>
        match recordValue form value g with
        | .error stop => .error stop
        | .ok g => read forms special stops g rest
      | _, some (form, none) =>
        if form.kind = .flag then
          match record form "" g with
          | .error stop => .error stop
          | .ok g => read forms special stops g rest
        else
          match rest with
          | [] => .error .misuse
          | value :: rest =>
            if shapeOf value ≠ .word then .error .misuse
            else
              match recordValue form value g with
              | .error stop => .error stop
              | .ok g => read forms special stops g rest

end ClassSwap.CommandLine
