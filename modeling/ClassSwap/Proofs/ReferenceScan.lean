import ClassSwap.Source.Reference
import Mathlib.Data.List.TakeWhile

namespace ClassSwap.Source

/-- A letter, a digit, `_` or `$` of ASCII. -/
def isAsciiPart (c : Char) : Bool := c.isAlphanum || c == '_' || c == '$'

def isIdentifier : List Char → Bool
  | [] => false
  | c :: rest => isNameStart c && rest.all isAsciiPart

/-- A dotted name without white space. -/
def spell : List (List Char) → List Char
  | [] => []
  | first :: more => first ++ more.flatMap ('.' :: ·)

def Stops (text : List Char) : Prop := ∀ c ∈ text.head?, isNamePart c = false

/-- No dotted name goes on over this character. -/
structure IsWall (c : Char) : Prop where
  start : isNameStart c = false
  part : isNamePart c = false
  dot : c ≠ '.'

variable {c w : Char} {x s after name rest : List Char} {first : List Char}
  {more names : List (List Char)}

theorem toNat_of_isAsciiPart (h : isAsciiPart c = true) : 36 ≤ c.toNat ∧ c.toNat ≤ 122 := by
  have letter : c.isAlpha = (c.isUpper || c.isLower) := rfl
  have upper : c.isUpper = decide ('A'.val ≤ c.val ∧ c.val ≤ 'Z'.val) := rfl
  have lower : c.isLower = (decide ('a'.val ≤ c.val) && decide (c.val ≤ 'z'.val)) := rfl
  simp only [isAsciiPart, Char.isAlphanum, letter, upper, lower, Char.isDigit, Bool.or_eq_true,
    Bool.and_eq_true, decide_eq_true_eq, beq_iff_eq] at h
  have between {low high : Char} (above : low.val ≤ c.val) (below : c.val ≤ high.val)
      (least : 36 ≤ low.toNat) (most : high.toNat ≤ 122) : 36 ≤ c.toNat ∧ c.toNat ≤ 122 :=
    ⟨Nat.le_trans least (UInt32.le_iff_toNat_le.mp above),
      Nat.le_trans (UInt32.le_iff_toNat_le.mp below) most⟩
  rcases h with (((⟨low, high⟩ | ⟨low, high⟩) | ⟨low, high⟩) | rfl) | rfl
  · exact between low high (by decide) (by decide)
  · exact between low high (by decide) (by decide)
  · exact between low high (by decide) (by decide)
  · decide
  · decide

theorem isBlank_of_isAsciiPart (h : isAsciiPart c = true) : isBlank c = false := by
  have bounds := toNat_of_isAsciiPart h
  simp only [isBlank, Bool.or_eq_false_iff, Bool.and_eq_false_iff, decide_eq_false_iff_not,
    beq_eq_false_iff_ne]
  omega

theorem isNamePart_of_isAsciiPart (h : isAsciiPart c = true) : isNamePart c = true := by
  have ascii : c.toNat < 128 := by
    have := toNat_of_isAsciiPart h
    omega
  simpa [isNamePart, Unicode.isWord, ascii, isAsciiPart] using h

theorem isAsciiPart_of_isNameStart (h : isNameStart c = true) : isAsciiPart c = true := by
  simp only [isNameStart, isAsciiPart, Char.isAlphanum, Bool.or_eq_true] at h ⊢
  exact h.imp_left (Or.imp_left .inl)

theorem identifier_cases (valid : isIdentifier name = true) :
    ∃ c rest, name = c :: rest ∧ isNameStart c = true ∧ ∀ d ∈ name, isAsciiPart d = true := by
  cases name with
  | nil => cases valid
  | cons c rest =>
    simp only [isIdentifier, Bool.and_eq_true, List.all_eq_true] at valid
    refine ⟨c, rest, rfl, valid.1, fun d mem => ?_⟩
    rcases List.mem_cons.mp mem with rfl | mem
    · exact isAsciiPart_of_isNameStart valid.1
    · exact valid.2 d mem

theorem toList_dotted (names : List (List Char)) : (dotted names).toList = spell names := by
  match names with
  | [] => rfl
  | [first] => simp [dotted, spell]
  | first :: second :: more =>
    have rest := toList_dotted (second :: more)
    simp only [dotted, List.map_cons] at rest ⊢
    rw [String.intercalate_cons_cons, String.toList_append, String.toList_append, rest]
    simp [spell]

theorem takeIdentifier?_append (valid : isIdentifier name = true) (stops : Stops after) :
    takeIdentifier? (name ++ after) = some (name, after) := by
  obtain ⟨c, rest, rfl, start, parts⟩ := identifier_cases valid
  have whole : ∀ d ∈ rest, isNamePart d = true := fun d mem =>
    isNamePart_of_isAsciiPart (parts d (List.mem_cons_of_mem c mem))
  have none : after.takeWhile isNamePart = [] ∧ after.dropWhile isNamePart = after := by
    cases after with
    | nil => exact ⟨rfl, rfl⟩
    | cons d tail => simp [stops d rfl]
  simp only [List.cons_append, takeIdentifier?, start, if_true]
  rw [List.takeWhile_append_of_pos whole, List.dropWhile_append_of_pos whole, none.1, none.2,
    List.append_nil]

theorem Stops.members (stops : Stops after) (more : List (List Char)) :
    Stops (more.flatMap ('.' :: ·) ++ after) := by
  cases more with
  | nil => exact stops
  | cons name rest =>
    intro c mem
    cases mem
    decide

theorem takeMembers_append (valid : ∀ name ∈ more, isIdentifier name = true) (stops : Stops after)
    (last : takeMember? after = none) :
    takeMembers (more.flatMap ('.' :: ·) ++ after) = (more, after) := by
  induction more with
  | nil =>
    rw [List.flatMap_nil, List.nil_append, takeMembers, last]
  | cons name rest ih =>
    have next : takeMember? ((name :: rest).flatMap ('.' :: ·) ++ after) =
        some (name, rest.flatMap ('.' :: ·) ++ after) := by
      simp only [List.flatMap_cons, List.cons_append, List.append_assoc, takeMember?]
      exact takeIdentifier?_append (valid name List.mem_cons_self) (stops.members rest)
    rw [takeMembers, next]
    simp only [ih fun n mem => valid n (List.mem_cons_of_mem name mem)]

theorem takeDotted?_append (named : names ≠ []) (valid : ∀ name ∈ names, isIdentifier name = true)
    (stops : Stops after) (last : takeMember? after = none) :
    takeDotted? (spell names ++ after) = some (names, after) := by
  cases names with
  | nil => exact absurd rfl named
  | cons first more =>
    simp only [spell, List.append_assoc, takeDotted?,
      takeIdentifier?_append (valid first List.mem_cons_self) (stops.members more),
      Option.bind_eq_bind, Option.bind_some]
    rw [takeMembers_append (fun n mem => valid n (List.mem_cons_of_mem first mem)) stops last]
    rfl

theorem dropWhile_wall {p : Char → Bool} (stop : p w = false) (x s : List Char) :
    (x ++ w :: s).dropWhile p = x.dropWhile p ++ w :: s := by
  induction x with
  | nil => simp [stop]
  | cons c x ih =>
    by_cases go : p c = true
    · simp [go, ih]
    · simp [go]

theorem takeIdentifier?_wall (wall : IsWall w)
    (taken : takeIdentifier? (x ++ w :: s) = some (name, rest)) :
    ∃ x', rest = x' ++ w :: s ∧ x'.length < x.length := by
  cases x with
  | nil => simp [takeIdentifier?, wall.start] at taken
  | cons c x =>
    simp only [List.cons_append, takeIdentifier?] at taken
    split at taken
    · obtain ⟨-, rfl⟩ := by simpa using taken
      refine ⟨x.dropWhile isNamePart, dropWhile_wall wall.part x s, ?_⟩
      have := length_dropWhile_le isNamePart x
      simp only [List.length_cons]
      omega
    · cases taken

theorem takeMember?_wall (wall : IsWall w)
    (taken : takeMember? (x ++ w :: s) = some (name, rest)) :
    ∃ x', rest = x' ++ w :: s ∧ x'.length < x.length := by
  cases x with
  | nil =>
    simp only [List.nil_append] at taken
    unfold takeMember? at taken
    split at taken
    next eq => exact absurd (List.cons.inj eq).1 wall.dot
    next => cases taken
  | cons c x =>
    unfold takeMember? at taken
    split at taken
    next eq =>
      obtain ⟨-, rfl⟩ := List.cons.inj eq
      obtain ⟨x', eq', shorter⟩ := takeIdentifier?_wall wall taken
      exact ⟨x', eq', by simp only [List.length_cons]; omega⟩
    next => cases taken

theorem takeMembers_wall (wall : IsWall w) (x s : List Char) :
    ∃ x', (takeMembers (x ++ w :: s)).2 = x' ++ w :: s ∧ x'.length ≤ x.length := by
  induction hn : x.length using Nat.strong_induction_on generalizing x with
  | _ n ih =>
    subst hn
    rw [takeMembers]
    split
    next name rest taken =>
      obtain ⟨x', rfl, shorter⟩ := takeMember?_wall wall taken
      obtain ⟨y, eq, bound⟩ := ih _ shorter x' rfl
      exact ⟨y, eq, by omega⟩
    next => exact ⟨x, rfl, le_rfl⟩

theorem takeDotted?_eq_some (taken : takeDotted? x = some (names, rest)) :
    ∃ first more tail, takeIdentifier? x = some (first, tail) ∧ names = first :: more ∧
      rest = (takeMembers tail).2 := by
  obtain ⟨⟨first, tail⟩, found, eq⟩ := Option.bind_eq_some_iff.mp taken
  obtain ⟨rfl, rfl⟩ := by simpa using eq
  exact ⟨first, _, tail, found, rfl, rfl⟩

theorem takeDotted?_wall (wall : IsWall w)
    (taken : takeDotted? (x ++ w :: s) = some (names, rest)) :
    ∃ x', rest = x' ++ w :: s ∧ x'.length < x.length := by
  obtain ⟨first, more, tail, found, -, rfl⟩ := takeDotted?_eq_some taken
  obtain ⟨y, rfl, shorter⟩ := takeIdentifier?_wall wall found
  obtain ⟨x', eq, bound⟩ := takeMembers_wall wall y s
  exact ⟨x', eq, by omega⟩

theorem qualifiedFrom_behind (wall : IsWall w) (x s : List Char) (tries : Nat)
    (enough : (x ++ w :: s).length ≤ tries) :
    ∃ left, s.length ≤ left ∧
      ∀ found ∈ qualifiedFrom left s, found ∈ qualifiedFrom tries (x ++ w :: s) := by
  induction hn : x.length using Nat.strong_induction_on generalizing x tries with
  | _ n ih =>
    subst hn
    cases tries with
    | zero => simp at enough
    | succ tries =>
      cases x with
      | nil =>
        have none : takeDotted? (w :: s) = none := by
          simp [takeDotted?, takeIdentifier?, wall.start]
        refine ⟨tries, by simpa using enough, fun found mem => ?_⟩
        simpa [qualifiedFrom, none] using mem
      | cons c x =>
        simp only [List.cons_append, qualifiedFrom]
        split
        next after taken =>
          rw [← List.cons_append] at taken
          obtain ⟨x', rfl, shorter⟩ := takeDotted?_wall wall taken
          have enough' : (x' ++ w :: s).length ≤ tries := by
            simp only [List.length_append, List.length_cons] at enough shorter ⊢
            omega
          obtain ⟨left, bound, found⟩ := ih x'.length shorter x' tries enough' rfl
          exact ⟨left, bound, fun f mem => List.mem_cons_of_mem _ (found f mem)⟩
        next =>
          have enough' : (x ++ w :: s).length ≤ tries := by simpa using enough
          exact ih x.length (by simp) x tries enough' rfl

theorem mem_qualifiedNames (wall : IsWall w) (valid : ∀ name ∈ names, isIdentifier name = true)
    (several : 2 ≤ names.length) (stops : Stops after) (last : takeMember? after = none)
    {text : String} (eq : text.toList = x ++ w :: (spell names ++ after)) :
    dotted names ∈ qualifiedNames text := by
  have enough : (x ++ w :: (spell names ++ after)).length ≤ text.length := by
    rw [← eq, String.length_toList]
  obtain ⟨left, bound, found⟩ := qualifiedFrom_behind wall x _ _ enough
  rw [qualifiedNames, eq]
  apply found
  match names, several, valid with
  | a :: b :: more, _, valid =>
    have taken := takeDotted?_append (List.cons_ne_nil a _) valid stops last
    obtain ⟨c, rest, rfl, -, -⟩ := identifier_cases (valid a List.mem_cons_self)
    cases left with
    | zero => simp [spell] at bound
    | succ left =>
      simp only [spell, List.cons_append] at taken ⊢
      simp only [qualifiedFrom, taken]
      exact List.mem_cons_self

def isSpace (c : Char) : Bool := c == ' ' || c == '\t' || c == '\n' || c == '\x0c' || c == '\r'

structure ImportText where
  isStatic : Bool := false
  parts : List (List Char)
  onDemand : Bool := false
  /-- What stands behind `import`, behind `static` and before the semicolon. -/
  space : List Char := [' ']
  staticSpace : List Char := [' ']
  finalSpace : List Char := []
  named : parts ≠ [] := by decide
  valid : ∀ part ∈ parts, isIdentifier part = true := by decide
  apart : space ≠ [] ∧ staticSpace ≠ [] := by decide
  blank : (space ++ staticSpace ++ finalSpace).all isSpace = true := by decide

namespace ImportText

def ending (d : ImportText) (after : List Char) : List Char :=
  (if d.onDemand then ['.', '*'] else []) ++ d.finalSpace ++ ';' :: after

def target (d : ImportText) (after : List Char) : List Char := spell d.parts ++ d.ending after

/-- All behind the word `import` and its white space. -/
def body (d : ImportText) (after : List Char) : List Char :=
  (if d.isStatic then ['s', 't', 'a', 't', 'i', 'c'] ++ d.staticSpace else []) ++ d.target after

def text (d : ImportText) (after : List Char) : List Char :=
  ['i', 'm', 'p', 'o', 'r', 't'] ++ d.space ++ d.body after

def found (d : ImportText) : Import := ⟨d.isStatic, dotted d.parts, d.onDemand⟩

end ImportText

/-- Only white space comes before the end of this text on its line. -/
def StartsLine (before : List Char) : Prop :=
  ∃ front blanks, before = front ++ blanks ∧ (∀ c ∈ blanks, isBlank c = true) ∧
    (front = [] ∨ front.getLast? = some '\n')

theorem isSpace_cases (h : isSpace c = true) :
    c = ' ' ∨ c = '\t' ∨ c = '\n' ∨ c = '\x0c' ∨ c = '\r' := by
  simpa [isSpace, or_assoc] using h

theorem isBlank_of_isSpace (h : isSpace c = true) : isBlank c = true := by
  rcases isSpace_cases h with rfl | rfl | rfl | rfl | rfl <;> decide

theorem isWall_of_isSpace (h : isSpace c = true) : IsWall c := by
  rcases isSpace_cases h with rfl | rfl | rfl | rfl | rfl <;>
    exact ⟨by decide, by decide, by decide⟩

theorem isBlank_of_isNameStart (h : isNameStart c = true) : isBlank c = false :=
  isBlank_of_isAsciiPart (isAsciiPart_of_isNameStart h)

theorem skipBlank_append (blanks : ∀ c ∈ x, isBlank c = true) (s : List Char) :
    skipBlank (x ++ s) = skipBlank s := List.dropWhile_append_of_pos blanks

theorem skipBlank_cons (ink : isBlank c = false) (s : List Char) : skipBlank (c :: s) = c :: s := by
  simp [skipBlank, ink]

theorem skipBlanks?_append (some_ : x ≠ []) (blanks : ∀ c ∈ x, isBlank c = true)
    (s : List Char) : skipBlanks? (x ++ s) = some (skipBlank s) := by
  cases x with
  | nil => exact absurd rfl some_
  | cons c x =>
    simp only [List.cons_append, skipBlanks?, blanks c List.mem_cons_self, if_true]
    rw [skipBlank_append fun d mem => blanks d (List.mem_cons_of_mem c mem)]

theorem takeStar_of_ne (other : c ≠ '.') (s : List Char) : takeStar (c :: s) = (false, c :: s) := by
  unfold takeStar
  split
  next eq => exact absurd (List.cons.inj eq).1 other
  next => rfl

theorem takeMember?_of_ne (other : c ≠ '.') (s : List Char) : takeMember? (c :: s) = none := by
  unfold takeMember?
  split
  next eq => exact absurd (List.cons.inj eq).1 other
  next => rfl

theorem skipBlanks?_eq_some (skipped : skipBlanks? x = some rest) :
    ∃ b tail, x = b :: tail ∧ isBlank b = true ∧ rest = skipBlank tail := by
  cases x with
  | nil => cases skipped
  | cons b tail =>
    simp only [skipBlanks?] at skipped
    split at skipped
    next blank => exact ⟨b, tail, rfl, blank, (Option.some.inj skipped).symm⟩
    next => cases skipped

theorem skipWord?_eq_some {word : List Char} (taken : skipWord? word x = some rest) :
    x = word ++ rest := by
  simp only [skipWord?] at taken
  split at taken
  next here =>
    obtain ⟨tail, rfl⟩ := List.isPrefixOf_iff_prefix.mp here
    simpa using taken
  next => cases taken

theorem skipWord?_append (word s : List Char) : skipWord? word (word ++ s) = some s := by
  simp [skipWord?]

namespace ImportText

variable (d : ImportText)

theorem spell_cases : ∃ c rest, spell d.parts = c :: rest ∧ isNameStart c = true := by
  obtain ⟨first, more, parts⟩ := List.exists_cons_of_ne_nil d.named
  obtain ⟨c, rest, rfl, start, -⟩ :=
    identifier_cases (d.valid first (parts ▸ List.mem_cons_self))
  exact ⟨c, rest ++ more.flatMap ('.' :: ·), by simp [parts, spell], start⟩

theorem target_cases (after : List Char) :
    ∃ c rest, d.target after = c :: rest ∧ isNameStart c = true := by
  obtain ⟨c, rest, spelled, start⟩ := d.spell_cases
  exact ⟨c, rest ++ d.ending after, by simp [target, spelled], start⟩

theorem final_blank : ∀ c ∈ d.finalSpace, isSpace c = true :=
  fun c mem => List.all_eq_true.mp d.blank c (List.mem_append_right _ mem)

theorem space_blank : ∀ c ∈ d.space, isSpace c = true :=
  fun c mem => List.all_eq_true.mp d.blank c (by simp [mem])

theorem static_blank : ∀ c ∈ d.staticSpace, isSpace c = true :=
  fun c mem => List.all_eq_true.mp d.blank c (by simp [mem])

theorem ending_cases (after : List Char) :
    ∃ c rest, d.ending after = c :: rest ∧ isNamePart c = false ∧ isNameStart c = false ∧
      (c = '.' → ∃ tail, rest = '*' :: tail) := by
  cases onDemand : d.onDemand with
  | true =>
    refine ⟨'.', '*' :: (d.finalSpace ++ ';' :: after), by simp [ending, onDemand], by decide,
      by decide, fun _ => ⟨_, rfl⟩⟩
  | false =>
    cases final : d.finalSpace with
    | nil => exact ⟨';', after, by simp [ending, onDemand, final], by decide, by decide, nofun⟩
    | cons c tail =>
      have wall := isWall_of_isSpace (d.final_blank c (by simp [final]))
      exact ⟨c, tail ++ ';' :: after, by simp [ending, onDemand, final], wall.part, wall.start,
        fun dot => absurd dot wall.dot⟩

theorem ending_stops (after : List Char) : Stops (d.ending after) := by
  obtain ⟨c, rest, eq, part, -⟩ := d.ending_cases after
  intro e mem
  rw [eq] at mem
  cases mem
  exact part

theorem takeMember?_ending (after : List Char) : takeMember? (d.ending after) = none := by
  obtain ⟨c, rest, eq, -, -, star⟩ := d.ending_cases after
  rw [eq]
  by_cases dot : c = '.'
  · obtain ⟨tail, rfl⟩ := star dot
    subst dot
    rfl
  · exact takeMember?_of_ne dot rest

theorem takeDotted?_target (after : List Char) :
    takeDotted? (d.target after) = some (d.parts, d.ending after) :=
  takeDotted?_append d.named d.valid (d.ending_stops after) (d.takeMember?_ending after)

theorem takeStar_ending (after : List Char) :
    takeStar (d.ending after) = (d.onDemand, d.finalSpace ++ ';' :: after) := by
  cases onDemand : d.onDemand with
  | true => simp [ending, onDemand, takeStar]
  | false =>
    cases final : d.finalSpace with
    | nil => simp [ending, onDemand, final, takeStar]
    | cons c tail =>
      have dot := (isWall_of_isSpace (d.final_blank c (by simp [final]))).dot
      simp [ending, onDemand, final, takeStar_of_ne dot]

theorem importTail?_target (isStatic : Bool) (after : List Char) :
    importTail? isStatic (d.target after) =
      some (⟨isStatic, dotted d.parts, d.onDemand⟩, after) := by
  have final : skipBlank (d.finalSpace ++ ';' :: after) = ';' :: after := by
    rw [skipBlank_append fun c mem => isBlank_of_isSpace (d.final_blank c mem)]
    exact skipBlank_cons (by decide) after
  simp [importTail?, takeDotted?_target, takeStar_ending, final]

/-- A name that white space follows the word `static` in ends with it. -/
theorem static_ends {b : Char} (word : d.target after = "static".toList ++ b :: rest)
    (blank : isBlank b = true) : isNamePart b = false := by
  have whole := d.takeDotted?_target after
  rw [word] at whole
  by_contra part
  rw [Bool.not_eq_false] at part
  obtain ⟨first, more, tail, identifier, parts, -⟩ := takeDotted?_eq_some whole
  have inside : b ∈ first := by
    have start : isNameStart 's' = true := by decide
    have letters : ∀ c ∈ "tatic".toList, isNamePart c = true := List.all_eq_true.mp (by decide)
    simp only [show "static".toList = 's' :: "tatic".toList from rfl, List.cons_append,
      takeIdentifier?, start, if_true, Option.some.injEq, Prod.mk.injEq] at identifier
    rw [← identifier.1, List.takeWhile_append_of_pos letters]
    simp [part]
  have mem : first ∈ d.parts := parts ▸ List.mem_cons_self
  obtain ⟨_, _, _, -, ascii⟩ := identifier_cases (d.valid first mem)
  rw [isBlank_of_isAsciiPart (ascii b inside)] at blank
  cases blank

/-- The name of a declaration is not taken for the word `static`. -/
theorem statically_target (after : List Char) :
    ((skipWord? "static".toList (d.target after)).bind skipBlanks?).bind (importTail? true) =
      none := by
  rw [Option.bind_assoc, Option.bind_eq_none_iff]
  intro rest taken
  rw [Option.bind_eq_none_iff]
  intro tail skipped
  obtain ⟨b, rest, rfl, blank, rfl⟩ := skipBlanks?_eq_some skipped
  have word := skipWord?_eq_some taken
  have part := d.static_ends word blank
  have dot : b ≠ '.' := by
    rintro rfl
    cases blank
  have alone : takeDotted? (spell ["static".toList] ++ b :: rest) =
      some (["static".toList], b :: rest) :=
    takeDotted?_append (by decide) (by decide) (fun c mem => by cases mem; exact part)
      (takeMember?_of_ne dot rest)
  have whole := d.takeDotted?_target after
  rw [show spell ["static".toList] = "static".toList by simp [spell], ← word, whole] at alone
  have ends : d.ending after = b :: rest := by
    injection alone with alone
    exact congrArg Prod.snd alone
  have plain := d.takeStar_ending after
  rw [ends, takeStar_of_ne dot] at plain
  have final : b :: rest = d.finalSpace ++ ';' :: after := congrArg Prod.snd plain
  have stop : skipBlank rest = ';' :: after := by
    have same : skipBlank (b :: rest) = skipBlank rest :=
      skipBlank_append (x := [b]) (by simpa using blank) rest
    rw [← same, final, skipBlank_append fun c mem => isBlank_of_isSpace (d.final_blank c mem)]
    exact skipBlank_cons (by decide) after
  rw [stop]
  rfl

theorem body_cases (after : List Char) :
    ∃ c rest, d.body after = c :: rest ∧ isNameStart c = true := by
  cases isStatic : d.isStatic with
  | true =>
    exact ⟨'s', ['t', 'a', 't', 'i', 'c'] ++ d.staticSpace ++ d.target after,
      by simp [body, isStatic], by decide⟩
  | false =>
    obtain ⟨c, rest, target, start⟩ := d.target_cases after
    exact ⟨c, rest, by simp [body, isStatic, target], start⟩

theorem skipBlank_body (after : List Char) : skipBlank (d.body after) = d.body after := by
  obtain ⟨c, rest, body, start⟩ := d.body_cases after
  rw [body]
  exact skipBlank_cons (isBlank_of_isNameStart start) rest

theorem skipBlank_text (after : List Char) : skipBlank (d.text after) = d.text after :=
  skipBlank_cons (by decide) _

theorem importAt?_text (blanks : ∀ c ∈ x, isBlank c = true) (after : List Char) :
    importAt? (x ++ d.text after) = some (d.found, after) := by
  have space : ∀ c ∈ d.space, isBlank c = true :=
    fun c mem => isBlank_of_isSpace (d.space_blank c mem)
  have front : skipBlank (x ++ d.text after) = "import".toList ++ (d.space ++ d.body after) := by
    rw [skipBlank_append blanks, skipBlank_text, text, List.append_assoc]
    rfl
  simp only [importAt?, front, skipWord?_append, Option.bind_eq_bind, Option.bind_some,
    skipBlanks?_append d.apart.1 space, skipBlank_body]
  cases isStatic : d.isStatic with
  | true =>
    have static_ : ∀ c ∈ d.staticSpace, isBlank c = true :=
      fun c mem => isBlank_of_isSpace (d.static_blank c mem)
    have word : d.body after = "static".toList ++ (d.staticSpace ++ d.target after) := by
      simp [body, isStatic]
    obtain ⟨c, rest, target, start⟩ := d.target_cases after
    have ink : skipBlank (d.target after) = d.target after := by
      rw [target]
      exact skipBlank_cons (isBlank_of_isNameStart start) rest
    simp only [word, skipWord?_append, Option.bind_some, skipBlanks?_append d.apart.2 static_, ink,
      importTail?_target, found, isStatic]
  | false =>
    have word : d.body after = d.target after := by simp [body, isStatic]
    simp only [word, statically_target, importTail?_target, found, isStatic]

/-- The declaration is not taken for the rest of one before it. -/
theorem importTail?_text (isStatic : Bool) (after : List Char) :
    importTail? isStatic (d.text after) = none := by
  obtain ⟨w, space, apart⟩ := List.exists_cons_of_ne_nil d.apart.1
  have wall := isWall_of_isSpace (d.space_blank w (by simp [apart]))
  have word : takeDotted? (d.text after) = some ([['i', 'm', 'p', 'o', 'r', 't']],
      d.space ++ d.body after) := by
    have stops : Stops (w :: (space ++ d.body after)) := fun c mem => by cases mem; exact wall.part
    rw [text, List.append_assoc, apart]
    refine takeDotted?_append (List.cons_ne_nil ['i', 'm', 'p', 'o', 'r', 't'] []) ?_ stops
      (takeMember?_of_ne wall.dot _)
    decide
  have star : takeStar (d.space ++ d.body after) = (false, d.space ++ d.body after) := by
    rw [apart]
    exact takeStar_of_ne wall.dot _
  have next : skipBlank (d.space ++ d.body after) = d.body after := by
    rw [skipBlank_append fun c mem => isBlank_of_isSpace (d.space_blank c mem)]
    exact d.skipBlank_body after
  obtain ⟨c, rest, body, start⟩ := d.body_cases after
  simp only [importTail?, word, Option.bind_eq_bind, Option.bind_some, star, next]
  rw [body]
  split
  next eq => cases eq; cases start
  next => rfl

theorem skipWord?_text (after : List Char) :
    skipWord? "static".toList (d.text after) = none := by
  simp [skipWord?, text]

variable {d : ImportText} {t : List Char} {found : Import} {isStatic : Bool}

theorem skipBlank_line (x t : List Char) :
    ((∀ c ∈ x, isBlank c = true) ∧ skipBlank (x ++ '\n' :: t) = skipBlank t) ∨
      ∃ y, skipBlank (x ++ '\n' :: t) = y ++ '\n' :: t ∧ y ≠ [] ∧ y.length ≤ x.length := by
  induction x with
  | nil => exact .inl ⟨nofun, skipBlank_append (x := ['\n']) (List.all_eq_true.mp (by decide)) t⟩
  | cons c x ih =>
    cases blank : isBlank c with
    | true =>
      have same : skipBlank (c :: x ++ '\n' :: t) = skipBlank (x ++ '\n' :: t) :=
        skipBlank_append (x := [c]) (by simpa using blank) _
      rw [same]
      rcases ih with ⟨blanks, eq⟩ | ⟨y, eq, ink, shorter⟩
      · exact .inl ⟨by simpa [blank] using blanks, eq⟩
      · exact .inr ⟨y, eq, ink, Nat.le_succ_of_le shorter⟩
    | false => exact .inr ⟨c :: x, skipBlank_cons blank _, List.cons_ne_nil c x, le_rfl⟩

theorem skipBlanks?_line (skipped : skipBlanks? (x ++ '\n' :: t) = some rest) :
    rest = skipBlank t ∨ ∃ y, rest = y ++ '\n' :: t ∧ y.length ≤ x.length := by
  cases x with
  | nil =>
    obtain ⟨b, tail, eq, -, rfl⟩ := skipBlanks?_eq_some skipped
    cases eq
    exact .inl rfl
  | cons c x =>
    obtain ⟨b, tail, eq, -, rfl⟩ := skipBlanks?_eq_some skipped
    cases eq
    rcases skipBlank_line x t with ⟨-, eq⟩ | ⟨y, eq, -, shorter⟩
    · exact .inl eq
    · exact .inr ⟨y, eq, Nat.le_succ_of_le shorter⟩

theorem skipWord?_line {word : List Char} (single : '\n' ∉ word)
    (taken : skipWord? word (x ++ '\n' :: t) = some rest) :
    ∃ y, x = word ++ y ∧ rest = y ++ '\n' :: t := by
  have whole := skipWord?_eq_some taken
  rcases List.append_eq_append_iff.mp whole with ⟨y, rfl, eq⟩ | ⟨y, rfl, rfl⟩
  · cases y with
    | nil => exact ⟨[], by simp, by simpa using eq.symm⟩
    | cons c y =>
      obtain ⟨rfl, -⟩ := List.cons.inj eq
      exact absurd (by simp) single
  · exact ⟨y, rfl, rfl⟩

theorem takeStar_line (x t : List Char) :
    ∃ y, (takeStar (x ++ '\n' :: t)).2 = y ++ '\n' :: t ∧ y.length ≤ x.length := by
  match x with
  | '.' :: '*' :: y => exact ⟨y, rfl, by simp; omega⟩
  | [] => exact ⟨[], rfl, le_rfl⟩
  | [c] =>
    refine ⟨[c], ?_, le_rfl⟩
    by_cases dot : c = '.'
    · subst dot
      rfl
    · rw [List.cons_append, takeStar_of_ne dot]
  | c :: e :: y =>
    by_cases star : c = '.' ∧ e = '*'
    · obtain ⟨rfl, rfl⟩ := star
      exact ⟨y, rfl, by simp; omega⟩
    · refine ⟨c :: e :: y, ?_, le_rfl⟩
      unfold takeStar
      split
      next eq =>
        simp only [List.cons_append, List.cons.injEq] at eq
        exact absurd ⟨eq.1, eq.2.1⟩ star
      next => rfl

theorem importTail?_line (line : skipBlank t = d.text after)
    (taken : importTail? isStatic (x ++ '\n' :: t) = some (found, rest)) :
    ∃ y, rest = y ++ '\n' :: t ∧ y.length < x.length := by
  obtain ⟨⟨names, rest'⟩, name, taken⟩ := Option.bind_eq_some_iff.mp taken
  have wall : IsWall '\n' := isWall_of_isSpace (by decide)
  obtain ⟨y, rfl, shorter⟩ := takeDotted?_wall wall name
  obtain ⟨z, eq, bound⟩ := takeStar_line y t
  simp only [eq] at taken
  split at taken
  next semicolon =>
    obtain ⟨-, rfl⟩ := by simpa using taken
    rcases skipBlank_line z t with ⟨-, next⟩ | ⟨u, eq', ink, bound'⟩
    · rw [next, line, text] at semicolon
      cases semicolon
    · rw [eq'] at semicolon
      cases u with
      | nil => exact absurd rfl ink
      | cons c u =>
        obtain ⟨-, rfl⟩ := List.cons.inj semicolon
        simp only [List.length_cons] at bound'
        exact ⟨u, rfl, by omega⟩
  next => cases taken

theorem importAt?_line (line : skipBlank t = d.text after) (ink : ¬∀ c ∈ x, isBlank c = true)
    (taken : importAt? (x ++ '\n' :: t) = some (found, rest)) :
    ∃ y, rest = y ++ '\n' :: t ∧ y.length < x.length := by
  obtain ⟨u, eq, -, bound⟩ := (skipBlank_line x t).resolve_left fun blanks => ink blanks.1
  obtain ⟨rest₁, word, taken⟩ := Option.bind_eq_some_iff.mp taken
  obtain ⟨rest₂, skipped, taken⟩ := Option.bind_eq_some_iff.mp taken
  rw [eq] at word
  obtain ⟨y, rfl, rfl⟩ := skipWord?_line (by decide) word
  have own (isStatic : Bool) : importTail? isStatic (skipBlank t) = none := by
    rw [line]
    exact d.importTail?_text isStatic after
  have behind {z : List Char} {isStatic : Bool} (bound' : z.length ≤ y.length)
      (taken : importTail? isStatic (z ++ '\n' :: t) = some (found, rest)) :
      ∃ y, rest = y ++ '\n' :: t ∧ y.length < x.length := by
    obtain ⟨v, eq, shorter⟩ := importTail?_line line taken
    simp only [List.length_append] at bound
    exact ⟨v, eq, by omega⟩
  rcases skipBlanks?_line skipped with rfl | ⟨z, rfl, bound'⟩
  · rw [line, d.skipWord?_text after, ← line, own] at taken
    cases taken
  · dsimp only at taken
    split at taken
    next tail statically =>
      obtain rfl : tail = (found, rest) := Option.some.inj taken
      obtain ⟨rest₃, statically, taken⟩ := Option.bind_eq_some_iff.mp statically
      obtain ⟨rest₄, word, skipped⟩ := Option.bind_eq_some_iff.mp statically
      obtain ⟨v, rfl, rfl⟩ := skipWord?_line (by decide) word
      rcases skipBlanks?_line skipped with rfl | ⟨u, rfl, bound''⟩
      · rw [own] at taken
        cases taken
      · exact behind (by simp only [List.length_append] at bound'; omega) taken
    next => exact behind bound' taken

end ImportText

/-- The declaration is found by a scan that has all of its line before it. -/
theorem mem_importsFrom (d : ImportText) (after : List Char) (atStart : Bool) (tries : Nat)
    (x : List Char) (enough : (x ++ d.text after).length ≤ tries)
    (line : (∃ front blanks, x = front ++ '\n' :: blanks ∧ ∀ c ∈ blanks, isBlank c = true) ∨
      (atStart = true ∧ ∀ c ∈ x, isBlank c = true)) :
    d.found ∈ importsFrom atStart tries (x ++ d.text after) := by
  induction tries generalizing atStart x with
  | zero => simp [ImportText.text] at enough
  | succ tries ih =>
    by_cases here : atStart = true ∧ ∀ c ∈ x, isBlank c = true
    · simp [importsFrom, here.1, d.importAt?_text here.2]
    obtain ⟨front, blanks, rfl, blank⟩ := line.resolve_right here
    have next : skipBlank (blanks ++ d.text after) = d.text after := by
      rw [skipBlank_append blank, d.skipBlank_text]
    simp only [List.append_assoc, List.cons_append] at enough ⊢
    simp only [importsFrom]
    split
    next found rest taken =>
      split at taken
      next start =>
        have ink : ¬∀ c ∈ front, isBlank c = true := by
          refine fun all => here ⟨start, fun c mem => ?_⟩
          rcases List.mem_append.mp mem with mem | mem
          · exact all c mem
          · rcases List.mem_cons.mp mem with rfl | mem
            · decide
            · exact blank c mem
        obtain ⟨y, rfl, shorter⟩ := ImportText.importAt?_line next ink taken
        have found := ih false (y ++ '\n' :: blanks)
          (by simp only [List.length_append, List.length_cons] at enough ⊢; omega)
          (.inl ⟨y, blanks, rfl, blank⟩)
        simp only [List.append_assoc, List.cons_append] at found
        exact List.mem_cons_of_mem _ found
      next => cases taken
    next =>
      cases front with
      | nil =>
        exact ih true blanks (by simpa using enough) (.inr ⟨rfl, blank⟩)
      | cons c front =>
        have found := ih (c == '\n') (front ++ '\n' :: blanks) (by simpa using enough)
          (.inl ⟨front, blanks, rfl, blank⟩)
        simpa using found

/-- A declaration that is the first thing on its line is found. -/
theorem mem_imports (d : ImportText) {before : List Char} (line : StartsLine before) {text : String}
    (eq : text.toList = before ++ d.text after) : d.found ∈ imports text := by
  rw [imports, eq]
  refine mem_importsFrom d after true _ before (by rw [← eq, String.length_toList]) ?_
  obtain ⟨front, blanks, rfl, blank, rfl | broken⟩ := line
  · exact .inr ⟨rfl, by simpa using blank⟩
  · obtain ⟨front, rfl⟩ := List.getLast?_eq_some_iff.mp broken
    exact .inl ⟨front, blanks, by simp, blank⟩

/-- The name of a declaration is found wherever it stands if it has a dot. -/
theorem ImportText.mem_qualifiedNames (d : ImportText) (several : 2 ≤ d.parts.length)
    {before : List Char} {text : String} (eq : text.toList = before ++ d.text after) :
    dotted d.parts ∈ qualifiedNames text := by
  obtain ⟨x, w, space, eq'⟩ : ∃ x w, isSpace w = true ∧
      before ++ d.text after = x ++ w :: d.target after := by
    cases isStatic : d.isStatic with
    | true =>
      obtain ⟨front, w, space⟩ := (d.staticSpace.eq_nil_or_concat).resolve_left d.apart.2
      refine ⟨before ++ (['i', 'm', 'p', 'o', 'r', 't'] ++ d.space ++
        ['s', 't', 'a', 't', 'i', 'c'] ++ front), w, d.static_blank w (by simp [space]), ?_⟩
      simp [ImportText.text, body, isStatic, space]
    | false =>
      obtain ⟨front, w, space⟩ := (d.space.eq_nil_or_concat).resolve_left d.apart.1
      refine ⟨before ++ (['i', 'm', 'p', 'o', 'r', 't'] ++ front), w,
        d.space_blank w (by simp [space]), ?_⟩
      simp [ImportText.text, body, isStatic, space]
  exact Source.mem_qualifiedNames (isWall_of_isSpace space) d.valid several
    (d.ending_stops after) (d.takeMember?_ending after) (eq.trans eq')

end ClassSwap.Source
