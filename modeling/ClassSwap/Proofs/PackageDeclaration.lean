import ClassSwap.Proofs.ReferenceScan
import ClassSwap.Source.Package

namespace ClassSwap.Source

variable {c w : Char} {x s t after name rest : List Char} {names : List (List Char)}

/-- No package declaration goes on over this character. -/
structure IsBarrier (c : Char) : Prop extends IsWall c where
  ink : isBlank c = false
  semicolon : c ≠ ';'

theorem skipBlank_wall (ink : isBlank w = false) (x s : List Char) :
    skipBlank (x ++ w :: s) = skipBlank x ++ w :: s := dropWhile_wall ink x s

theorem takeWhile_wall {p : Char → Bool} (stop : p w = false) (x s : List Char) :
    (x ++ w :: s).takeWhile p = x.takeWhile p := by
  induction x with
  | nil => simp [stop]
  | cons c x ih =>
    by_cases go : p c = true
    · simp [go, ih]
    · simp [go]

theorem skipBlanks?_wall (ink : isBlank w = false) (x s : List Char) :
    skipBlanks? (x ++ w :: s) = (skipBlanks? x).map (· ++ w :: s) := by
  cases x with
  | nil => simp [skipBlanks?, ink]
  | cons c x =>
    by_cases blank : isBlank c = true
    · simp [skipBlanks?, blank, skipBlank_wall ink]
    · simp [skipBlanks?, blank]

theorem skipWord?_wall {word : List Char} (absent : w ∉ word) (x s : List Char) :
    skipWord? word (x ++ w :: s) = (skipWord? word x).map (· ++ w :: s) := by
  by_cases here : word <+: x
  · obtain ⟨tail, rfl⟩ := here
    rw [List.append_assoc, skipWord?_append, skipWord?_append]
    rfl
  · have there : ¬ word <+: x ++ w :: s := by
      rintro ⟨tail, eq⟩
      rcases List.append_eq_append_iff.mp eq with ⟨y, rfl, -⟩ | ⟨y, rfl, beyond⟩
      · exact here ⟨y, rfl⟩
      · cases y with
        | nil => exact here ⟨[], by simp⟩
        | cons d y =>
          obtain ⟨rfl, -⟩ := List.cons.inj beyond
          exact absent (by simp)
    simp [skipWord?, List.isPrefixOf_iff_prefix, here, there]

theorem takeIdentifier?_before (wall : IsWall w) (x s : List Char) :
    takeIdentifier? (x ++ w :: s) = (takeIdentifier? x).map fun p => (p.1, p.2 ++ w :: s) := by
  cases x with
  | nil => simp [takeIdentifier?, wall.start]
  | cons c x =>
    by_cases start : isNameStart c = true
    · simp [takeIdentifier?, start, takeWhile_wall wall.part, dropWhile_wall wall.part]
    · simp [takeIdentifier?, start]

theorem takeSpacedMember?_before (barrier : IsBarrier w) (x s : List Char) :
    takeSpacedMember? (x ++ w :: s) =
      (takeSpacedMember? x).map fun p => (p.1, p.2 ++ w :: s) := by
  unfold takeSpacedMember?
  rw [skipBlank_wall barrier.ink]
  match skipBlank x with
  | [] =>
    rw [List.nil_append]
    split
    next eq => exact absurd (List.cons.inj eq).1 barrier.dot
    next => rfl
  | c :: y =>
    by_cases dot : c = '.'
    · subst dot
      simp only [List.cons_append, skipBlank_wall barrier.ink,
        takeIdentifier?_before barrier.toIsWall]
    · rw [List.cons_append]
      split
      next eq => exact absurd (List.cons.inj eq).1 dot
      next =>
        split
        next eq => exact absurd (List.cons.inj eq).1 dot
        next => rfl

theorem takeSpacedMembers_of_some (taken : takeSpacedMember? x = some (name, rest)) :
    takeSpacedMembers x = (name :: (takeSpacedMembers rest).1, (takeSpacedMembers rest).2) := by
  rw [takeSpacedMembers, taken]

theorem takeSpacedMembers_of_none (taken : takeSpacedMember? x = none) :
    takeSpacedMembers x = ([], x) := by
  rw [takeSpacedMembers, taken]

theorem takeSpacedMembers_before (barrier : IsBarrier w) (x s : List Char) :
    takeSpacedMembers (x ++ w :: s) =
      ((takeSpacedMembers x).1, (takeSpacedMembers x).2 ++ w :: s) := by
  induction hn : x.length using Nat.strong_induction_on generalizing x with
  | _ n ih =>
    subst hn
    cases taken : takeSpacedMember? x with
    | none =>
      rw [takeSpacedMembers_of_none taken, takeSpacedMembers_of_none]
      rw [takeSpacedMember?_before barrier, taken, Option.map_none]
    | some found =>
      obtain ⟨name, rest⟩ := found
      have taken' : takeSpacedMember? (x ++ w :: s) = some (name, rest ++ w :: s) := by
        rw [takeSpacedMember?_before barrier, taken, Option.map_some]
      rw [takeSpacedMembers_of_some taken', takeSpacedMembers_of_some taken,
        ih rest.length (takeSpacedMember?_lt taken) rest rfl]

/-- What reads as a declaration in front of a barrier ends there. -/
theorem packageAt?_before (barrier : IsBarrier w) (absent : w ∉ "package".toList)
    (x s : List Char) : packageAt? (x ++ w :: s) = packageAt? x := by
  unfold packageAt?
  rw [skipBlank_wall barrier.ink, skipWord?_wall absent]
  cases skipWord? "package".toList (skipBlank x) with
  | none => rfl
  | some tail =>
    show (skipBlanks? (tail ++ w :: s) >>= _) = skipBlanks? tail >>= _
    rw [skipBlanks?_wall barrier.ink]
    cases skipBlanks? tail with
    | none => rfl
    | some tail =>
      show (takeIdentifier? (tail ++ w :: s) >>= _) = takeIdentifier? tail >>= _
      rw [takeIdentifier?_before barrier.toIsWall]
      cases takeIdentifier? tail with
      | none => rfl
      | some found =>
        simp only [Option.map_some, Option.bind_eq_bind, Option.bind_some,
          takeSpacedMembers_before barrier, skipBlank_wall barrier.ink]
        cases skipBlank (takeSpacedMembers found.2).2 with
        | nil =>
          rw [List.nil_append]
          split
          next eq => exact absurd (List.cons.inj eq).1 barrier.semicolon
          next => rfl
        | cons c y =>
          by_cases semicolon : c = ';'
          · subst semicolon
            rfl
          · rw [List.cons_append]
            split
            next eq => exact absurd (List.cons.inj eq).1 semicolon
            next =>
              split
              next eq => exact absurd (List.cons.inj eq).1 semicolon
              next => rfl

/-- The package that the lines of a text declare, its first line apart. -/
def laterPackage? (text : List Char) : Option (List (List Char)) :=
  (lineStarts.afterBreaks text).findSome? packageAt?

/-- The package that a text declares behind other text, at the start of a line or not. -/
def packageFrom? (atStart : Bool) (text : List Char) : Option (List (List Char)) :=
  (if atStart then packageAt? text else none).or (laterPackage? text)

theorem package?_eq (text : List Char) : package? text = packageFrom? true text := by
  rw [package?, lineStarts, List.findSome?_cons, packageFrom?, laterPackage?]
  cases packageAt? text <;> rfl

theorem packageFrom?_of_none (other : packageAt? t = none) (atStart : Bool) :
    packageFrom? atStart t = laterPackage? t := by
  simp [packageFrom?, other]

theorem laterPackage?_break (t : List Char) : laterPackage? ('\n' :: t) = packageFrom? true t := by
  rw [← package?_eq]
  rfl

theorem laterPackage?_cons (same : c ≠ '\n') (t : List Char) :
    laterPackage? (c :: t) = laterPackage? t := by
  rw [laterPackage?, lineStarts.afterBreaks, if_neg same]
  rfl

theorem laterPackage?_line (single : '\n' ∉ x) (t : List Char) :
    laterPackage? (x ++ t) = laterPackage? t := by
  induction x with
  | nil => rfl
  | cons c x ih =>
    rw [List.mem_cons, not_or] at single
    rw [List.cons_append, laterPackage?_cons (Ne.symm single.1), ih single.2]

theorem packageAt?_blanks (blanks : ∀ c ∈ x, isBlank c = true) (t : List Char) :
    packageAt? (x ++ t) = packageAt? t := by
  rw [packageAt?, skipBlank_append blanks]
  rfl

/-- White space in front of something that is no declaration has none either. -/
theorem laterPackage?_blanks (blanks : ∀ c ∈ x, isBlank c = true) (other : packageAt? t = none) :
    laterPackage? (x ++ t) = laterPackage? t := by
  induction x with
  | nil => rfl
  | cons c x ih =>
    have ih := ih fun d mem => blanks d (List.mem_cons_of_mem c mem)
    by_cases broken : c = '\n'
    · subst broken
      have none : packageAt? (x ++ t) = none := by
        rw [packageAt?_blanks fun d mem => blanks d (List.mem_cons_of_mem _ mem), other]
      rw [List.cons_append, laterPackage?_break, packageFrom?_of_none none, ih]
    · rw [List.cons_append, laterPackage?_cons broken, ih]

/-- What comes before a barrier and what comes behind it declare packages apart from each other. -/
theorem laterPackage?_barrier (barrier : IsBarrier w) (absent : w ∉ "package".toList)
    (same : w ≠ '\n') (x s : List Char) :
    laterPackage? (x ++ w :: s) = (laterPackage? x).or (laterPackage? s) := by
  induction x with
  | nil => exact laterPackage?_cons same s
  | cons c x ih =>
    by_cases broken : c = '\n'
    · subst broken
      rw [List.cons_append, laterPackage?_break, laterPackage?_break, packageFrom?, packageFrom?,
        ih, packageAt?_before barrier absent, Option.or_assoc]
    · rw [List.cons_append, laterPackage?_cons broken, laterPackage?_cons broken, ih]

theorem packageAt?_of_ne (ink : isBlank c = false) (other : c ≠ 'p') (t : List Char) :
    packageAt? (c :: t) = none := by
  rw [packageAt?, skipBlank_cons ink]
  have word : skipWord? "package".toList (c :: t) = none := by
    simp [skipWord?, Ne.symm other]
  rw [word]
  rfl

/-- What may come before a package declaration. A line comment ends with its line. -/
inductive Gap where
  | space (c : Char) (blank : isSpace c = true)
  | line (text : List Char) (stop : Char) (single : '\n' ∉ text ∧ '\r' ∉ text)
    (ends : stop = '\n' ∨ stop = '\r')
  | block (text : List Char) (single : ¬['*', '/'] <:+: text)

namespace Gap

def written : Gap → List Char
  | space c _ => [c]
  | line text stop _ _ => '/' :: '/' :: text ++ [stop]
  | block text _ => '/' :: '*' :: text ++ ['*', '/']

def package? : Gap → Option (List (List Char))
  | block text _ => laterPackage? text
  | _ => none

/-- Whether only white space comes before the next character on its line. -/
def opensLine (atStart : Bool) : Gap → Bool
  | space c _ => atStart || c == '\n'
  | line _ stop _ _ => stop == '\n'
  | block .. => false

theorem isBarrier_star : IsBarrier '*' :=
  ⟨⟨by decide, by decide, by decide⟩, by decide, by decide⟩

theorem packageFrom?_written (g : Gap) (atStart : Bool) (t : List Char) :
    packageFrom? atStart (g.written ++ t) =
      g.package?.or (packageFrom? (g.opensLine atStart) t) := by
  cases g with
  | space c blank =>
    have same : packageAt? (c :: t) = packageAt? t :=
      packageAt?_blanks (x := [c]) (by simpa using isBlank_of_isSpace blank) t
    by_cases broken : c = '\n'
    · subst broken
      simp only [written, List.singleton_append, package?, Option.none_or, opensLine, packageFrom?,
        same, laterPackage?_break, beq_self_eq_true, Bool.or_true, if_true]
      cases atStart <;> cases packageAt? t <;> rfl
    · have still : (c == '\n') = false := by simpa using broken
      simp only [written, List.singleton_append, package?, Option.none_or, opensLine, packageFrom?,
        same, laterPackage?_cons broken, still, Bool.or_false]
  | line text stop single ends =>
    have other : packageAt? ('/' :: ('/' :: text ++ stop :: t)) = none :=
      packageAt?_of_ne (by decide) (by decide) _
    have whole : laterPackage? ('/' :: ('/' :: text ++ stop :: t)) = laterPackage? (stop :: t) :=
      laterPackage?_line (x := '/' :: '/' :: text) (by simpa using single.1) _
    have eq : (line text stop single ends).written ++ t = '/' :: ('/' :: text ++ stop :: t) := by
      simp [written]
    rw [eq, packageFrom?_of_none other, whole]
    rcases ends with rfl | rfl
    · exact laterPackage?_break t
    · exact laterPackage?_cons (by decide) t
  | block text single =>
    have other : packageAt? ('/' :: ('*' :: text ++ '*' :: '/' :: t)) = none :=
      packageAt?_of_ne (by decide) (by decide) _
    have eq : (block text single).written ++ t = '/' :: ('*' :: text ++ '*' :: '/' :: t) := by
      simp [written]
    rw [eq, packageFrom?_of_none other, laterPackage?_cons (by decide), List.cons_append,
      laterPackage?_cons (by decide), laterPackage?_barrier isBarrier_star (by decide) (by decide),
      laterPackage?_cons (by decide)]
    rfl

theorem packageFrom?_gaps (gaps : List Gap) (atStart : Bool) (t : List Char) :
    packageFrom? atStart (gaps.flatMap written ++ t) =
      (gaps.findSome? package?).or (packageFrom? (gaps.foldl opensLine atStart) t) := by
  induction gaps generalizing atStart with
  | nil => rfl
  | cons g gaps ih =>
    rw [List.flatMap_cons, List.append_assoc, packageFrom?_written, ih, List.findSome?_cons,
      List.foldl_cons]
    cases g.package? <;> rfl

end Gap

/-- An identifier behind a dot, with the white space on both sides of the dot. -/
structure PackagePart where
  before : List Char := []
  behind : List Char := []
  name : List Char
  blank : (before ++ behind).all isSpace = true := by decide
  valid : isIdentifier name = true := by decide

def PackagePart.written (p : PackagePart) : List Char := p.before ++ '.' :: (p.behind ++ p.name)

structure PackageText where
  first : List Char
  more : List PackagePart := []
  /-- What stands behind `package` and before the semicolon. -/
  space : List Char := [' ']
  finalSpace : List Char := []
  valid : isIdentifier first = true := by decide
  apart : space ≠ [] := by decide
  blank : (space ++ finalSpace).all isSpace = true := by decide

namespace PackageText

def parts (d : PackageText) : List (List Char) := d.first :: d.more.map (·.name)

def ending (more : List PackagePart) (finalSpace after : List Char) : List Char :=
  more.flatMap PackagePart.written ++ (finalSpace ++ ';' :: after)

def written (d : PackageText) (after : List Char) : List Char :=
  ['p', 'a', 'c', 'k', 'a', 'g', 'e'] ++ (d.space ++ (d.first ++ ending d.more d.finalSpace after))

end PackageText

theorem PackagePart.blanks (p : PackagePart) :
    (∀ c ∈ p.before, isSpace c = true) ∧ ∀ c ∈ p.behind, isBlank c = true := by
  have blank := List.all_eq_true.mp p.blank
  exact ⟨fun c mem => blank c (List.mem_append_left _ mem),
    fun c mem => isBlank_of_isSpace (blank c (List.mem_append_right _ mem))⟩

theorem PackageText.blanks (d : PackageText) :
    (∀ c ∈ d.space, isBlank c = true) ∧ ∀ c ∈ d.finalSpace, isSpace c = true := by
  have blank := List.all_eq_true.mp d.blank
  exact ⟨fun c mem => isBlank_of_isSpace (blank c (List.mem_append_left _ mem)),
    fun c mem => blank c (List.mem_append_right _ mem)⟩

/-- Behind an identifier, up to the dot or the semicolon, no identifier goes on or starts. -/
structure Pauses (text : List Char) : Prop where
  stops : Stops text
  point : ∃ w after, (w = '.' ∨ w = ';') ∧ skipBlank text = w :: after

theorem pauses_of_point (spaces : ∀ c ∈ x, isSpace c = true) (point : w = '.' ∨ w = ';')
    (t : List Char) : Pauses (x ++ w :: t) := by
  have ink : isBlank w = false ∧ isNamePart w = false := by
    rcases point with rfl | rfl <;> exact ⟨by decide, by decide⟩
  refine ⟨fun c mem => ?_, w, t, point, ?_⟩
  · cases x with
    | nil => cases mem; exact ink.2
    | cons d x => cases mem; exact (isWall_of_isSpace (spaces _ List.mem_cons_self)).part
  · rw [skipBlank_append fun c mem => isBlank_of_isSpace (spaces c mem), skipBlank_cons ink.1]

theorem PackageText.pauses_ending (more : List PackagePart)
    (spaces : ∀ c ∈ x, isSpace c = true) (after : List Char) : Pauses (ending more x after) := by
  cases more with
  | nil => exact pauses_of_point spaces (.inr rfl) after
  | cons p more =>
    have eq : ending (p :: more) x after =
        p.before ++ '.' :: (p.behind ++ p.name ++ ending more x after) := by
      simp [ending, PackagePart.written]
    rw [eq]
    exact pauses_of_point p.blanks.1 (.inl rfl) _

theorem skipBlank_identifier (valid : isIdentifier name = true) (t : List Char) :
    skipBlank (name ++ t) = name ++ t := by
  obtain ⟨c, rest, rfl, start, -⟩ := identifier_cases valid
  exact skipBlank_cons (isBlank_of_isNameStart start) _

/-- A declaration does not start at a part of a package name, be it the word `package`. -/
theorem packageAt?_identifier (valid : isIdentifier name = true) (pauses : Pauses t) :
    packageAt? (name ++ t) = none := by
  obtain ⟨_, _, -, -, ascii⟩ := identifier_cases valid
  rw [packageAt?, skipBlank_identifier valid]
  cases word : skipWord? "package".toList (name ++ t) with
  | none => rfl
  | some rest =>
    have whole := skipWord?_eq_some word
    have outside : rest = t ∨ ∃ c y, rest = c :: y ∧ isBlank c = false := by
      rcases List.append_eq_append_iff.mp whole with ⟨y, named, rfl⟩ | ⟨y, rfl, rfl⟩
      · cases y with
        | nil => exact .inl (by simp)
        | cons c y =>
          have inside : c ∈ "package".toList := by simp [named]
          have letters : "package".toList.all isNamePart = true := by decide
          have stop := pauses.stops c rfl
          rw [List.all_eq_true.mp letters c inside] at stop
          cases stop
      · cases y with
        | nil => exact .inl rfl
        | cons c y =>
          exact .inr ⟨c, y ++ t, rfl, isBlank_of_isAsciiPart (ascii c (by simp))⟩
    rcases outside with rfl | ⟨c, y, rfl, ink⟩
    · cases skipped : skipBlanks? rest with
      | none => simp [skipped]
      | some after =>
        obtain ⟨b, tail, rfl, blank, rfl⟩ := skipBlanks?_eq_some skipped
        obtain ⟨w, behind, point, eq⟩ := pauses.point
        have next : skipBlank tail = w :: behind := by
          rw [← eq, ← List.singleton_append, skipBlank_append (by simpa using blank)]
        have none : takeIdentifier? (w :: behind) = none := by
          rcases point with rfl | rfl <;> simp [takeIdentifier?, isNameStart]
        simp [skipped, next, none]
    · simp [skipBlanks?, ink]

namespace PackageText

theorem newline_notMem_identifier (valid : isIdentifier name = true) : '\n' ∉ name := by
  obtain ⟨_, _, -, -, ascii⟩ := identifier_cases valid
  exact fun mem => absurd (ascii '\n' mem) (by decide)

theorem ending_cons (p : PackagePart) (more : List PackagePart) (x after : List Char) :
    ending (p :: more) x after =
      p.before ++ '.' :: (p.behind ++ (p.name ++ ending more x after)) := by
  simp [ending, PackagePart.written]

section

variable {more : List PackagePart} (spaces : ∀ c ∈ x, isSpace c = true) (after : List Char)
include spaces

/-- No line of the name declares a package of its own. -/
theorem laterPackage?_ending : laterPackage? (ending more x after) = laterPackage? after := by
  induction more with
  | nil =>
    have other : packageAt? (';' :: after) = none := packageAt?_of_ne (by decide) (by decide) _
    exact (laterPackage?_blanks (fun c mem => isBlank_of_isSpace (spaces c mem)) other).trans
      (laterPackage?_cons (by decide) after)
  | cons p more ih =>
    have other := packageAt?_identifier p.valid (pauses_ending more spaces after)
    have dot (t : List Char) : packageAt? ('.' :: t) = none :=
      packageAt?_of_ne (by decide) (by decide) t
    calc laterPackage? (ending (p :: more) x after)
      _ = laterPackage? (p.behind ++ (p.name ++ ending more x after)) := by
        rw [ending_cons, laterPackage?_blanks (fun c mem => isBlank_of_isSpace (p.blanks.1 c mem))
          (dot _), laterPackage?_cons (by decide)]
      _ = laterPackage? (p.name ++ ending more x after) := laterPackage?_blanks p.blanks.2 other
      _ = laterPackage? after := by
        rw [laterPackage?_line (newline_notMem_identifier p.valid), ih]

theorem takeSpacedMembers_ending :
    takeSpacedMembers (ending more x after) = (more.map (·.name), x ++ ';' :: after) := by
  induction more with
  | nil =>
    refine takeSpacedMembers_of_none (x := x ++ ';' :: after) ?_
    rw [takeSpacedMember?, skipBlank_append fun c mem => isBlank_of_isSpace (spaces c mem),
      skipBlank_cons (by decide)]
    rfl
  | cons p more ih =>
    have taken : takeSpacedMember? (ending (p :: more) x after) =
        some (p.name, ending more x after) := by
      rw [takeSpacedMember?, ending_cons,
        skipBlank_append fun c mem => isBlank_of_isSpace (p.blanks.1 c mem),
        skipBlank_cons (by decide)]
      simp only [skipBlank_append p.blanks.2, skipBlank_identifier p.valid]
      exact takeIdentifier?_append p.valid (pauses_ending more spaces after).stops
    rw [takeSpacedMembers_of_some taken, ih]
    rfl

end

variable (d : PackageText) (after : List Char)

theorem laterPackage?_written : laterPackage? (d.written after) = laterPackage? after := by
  have other := packageAt?_identifier d.valid (pauses_ending d.more d.blanks.2 after)
  rw [written, laterPackage?_line (by decide), laterPackage?_blanks d.blanks.1 other,
    laterPackage?_line (newline_notMem_identifier d.valid), laterPackage?_ending d.blanks.2]

theorem packageAt?_written : packageAt? (d.written after) = some d.parts := by
  have stops := (pauses_ending d.more d.blanks.2 after).stops
  have front : skipBlank (d.written after) = "package".toList ++
      (d.space ++ (d.first ++ ending d.more d.finalSpace after)) := skipBlank_cons (by decide) _
  have final : skipBlank (d.finalSpace ++ ';' :: after) = ';' :: after := by
    rw [skipBlank_append fun c mem => isBlank_of_isSpace (d.blanks.2 c mem),
      skipBlank_cons (by decide)]
  rw [packageAt?, front, skipWord?_append]
  simp only [Option.bind_eq_bind, Option.bind_some, skipBlanks?_append d.apart d.blanks.1,
    skipBlank_identifier d.valid, takeIdentifier?_append d.valid stops,
    takeSpacedMembers_ending d.blanks.2, final]
  rfl

theorem packageFrom?_written (atStart : Bool) :
    packageFrom? atStart (d.written after) =
      if atStart then some d.parts else laterPackage? after := by
  cases atStart <;> simp [packageFrom?, d.packageAt?_written, d.laterPackage?_written]

end PackageText

/-- A source text by what is looked at in it: what comes before the package declaration, the
declaration if there is one, and the rest. -/
structure SourceText where
  gaps : List Gap
  declared : Option PackageText
  rest : List Char

namespace SourceText

variable (s : SourceText)

def text : List Char :=
  s.gaps.flatMap Gap.written ++
    match s.declared with
    | some d => d.written s.rest
    | none => s.rest

/-- The class of a simple name in the package that the text declares. -/
def nameOf (simpleName : String) : ClassName :=
  match s.declared with
  | some d => ⟨dotted d.parts ++ "." ++ simpleName⟩
  | none => ⟨simpleName⟩

/-- Whether only white space comes before the declaration, or the rest, on its line. -/
def opensLine : Bool := s.gaps.foldl Gap.opensLine true

/-- The declaration that is heeded: that of a comment before all others, then the one that the text
has if it is the first thing on its line, then any further one. -/
def heeded? : Option (List (List Char)) :=
  (s.gaps.findSome? Gap.package?).or
    (match s.declared with
    | some d => if s.opensLine then some d.parts else laterPackage? s.rest
    | none => packageFrom? s.opensLine s.rest)

theorem package?_text : package? s.text = s.heeded? := by
  rw [package?_eq, text, Gap.packageFrom?_gaps, heeded?]
  cases s.declared with
  | none => rfl
  | some d => exact congrArg _ (d.packageFrom?_written s.rest _)

/-- No comment has a line that reads as a declaration, a declaration is the first thing on its line,
and without one no line of the rest reads as one. -/
structure Plain : Prop where
  comments : ∀ g ∈ s.gaps, g.package? = none
  line : s.declared.isSome = true → s.opensLine = true
  rest : s.declared = none → package? s.rest = none

theorem Plain.heeded {s : SourceText} (plain : s.Plain) :
    s.heeded? = s.declared.map PackageText.parts := by
  rw [heeded?, List.findSome?_eq_none_iff.mpr plain.comments, Option.none_or]
  cases declared : s.declared with
  | some d => simp [plain.line (by simp [declared])]
  | none =>
    have rest := plain.rest declared
    rw [package?_eq, packageFrom?, Option.or_eq_none_iff] at rest
    cases s.opensLine <;> simp_all [packageFrom?]

/-- A class is named after the package declaration of its text exactly if this is the one that is
heeded, as it is in a plain text. -/
theorem named_after_declaration (s : SourceText) (simpleName : String) :
    (s.Plain → className (String.ofList s.text) simpleName = s.nameOf simpleName) ∧
      (className (String.ofList s.text) simpleName = s.nameOf simpleName ↔
        s.heeded?.map dotted = s.declared.map fun d => dotted d.parts) := by
  have whole : className (String.ofList s.text) simpleName = s.nameOf simpleName ↔
      s.heeded?.map dotted = s.declared.map fun d => dotted d.parts := by
    have longer (name : String) : name ++ "." ++ simpleName ≠ simpleName := by
      intro eq
      have := congrArg String.length eq
      simp at this
    rw [className, String.toList_ofList, package?_text, nameOf]
    cases s.heeded? with
    | none => cases s.declared <;> simp [(longer _).symm]
    | some names => cases s.declared <;> simp [longer]
  exact ⟨fun plain => whole.mpr (by rw [plain.heeded, Option.map_map]; rfl), whole⟩

/-- A file with two comments, and a declaration that is indented and spread over lines. -/
def commented : SourceText where
  gaps := [.line " it's generated".toList '\n' (by decide +kernel) (.inl rfl),
    .block " package notes; ".toList (by decide +kernel), .space '\n' (by decide),
    .space '\t' (by decide)]
  declared := some
    { first := ['c', 'o', 'm'], finalSpace := [' '],
      more := [{ before := ['\n'], behind := [' '], name := ['a', 'c', 'm', 'e'] }] }
  rest := "\nclass Main \x7b\x7d".toList

theorem named_after_declaration_commented :
    commented.Plain ∧ commented.nameOf "Main" = ⟨"com.acme.Main"⟩ ∧
      className (String.ofList commented.text) "Main" = commented.nameOf "Main" := by
  have plain : commented.Plain := ⟨by decide +kernel, by decide +kernel, nofun⟩
  exact ⟨plain, by decide +kernel, (named_after_declaration commented "Main").1 plain⟩

def crowded : SourceText where
  gaps := [.block " header ".toList (by decide +kernel), .space ' ' (by decide)]
  declared := some { first := ['a'], more := [{ name := ['b'] }] }
  rest := " class C \x7b\x7d".toList

theorem package_missed_behind_comment :
    String.ofList crowded.text = "/* header */ package a.b; class C \x7b\x7d" ∧
      crowded.nameOf "C" = ⟨"a.b.C"⟩ ∧ className (String.ofList crowded.text) "C" = ⟨"C"⟩ := by
  decide +kernel

end SourceText

end ClassSwap.Source
