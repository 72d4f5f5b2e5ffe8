import ClassSwap.Proofs.JsonScan
import ClassSwap.Proofs.TextBytes

namespace ClassSwap

namespace JsonText

/-- A JSON value all of whose numbers are integers. -/
inductive Value where
  | null
  | bool (value : Bool)
  | integer (value : Int)
  | string (value : String)
  | array (items : List Value)
  | object (members : List (String × Value))

mutual

/-- The text is one of the value, with no white space around it. -/
inductive Spells : List Char → Value → Prop
  | null : Spells "null".toList .null
  | yes : Spells "true".toList (.bool true)
  | no : Spells "false".toList (.bool false)
  | integer (i : Int) : Spells (integerText i) (.integer i)
  | string {text chars : List Char} (letters : Letters text chars) :
      Spells ('"' :: text ++ ['"']) (.string (String.ofList chars))
  | emptyArray {gap : List Char} (space : Spaces gap) : Spells ('[' :: gap ++ [']']) (.array [])
  | array {gap text others : List Char} {value : Value} {values : List Value} (space : Spaces gap)
      (first : Spells text value) (rest : SpellsItems others values) :
      Spells ('[' :: gap ++ text ++ others) (.array (value :: values))
  | emptyObject {gap : List Char} (space : Spaces gap) : Spells ('{' :: gap ++ ['}']) (.object [])
  | object {gap text others : List Char} {member : String × Value}
      {members : List (String × Value)} (space : Spaces gap) (first : SpellsMember text member)
      (rest : SpellsMembers others members) :
      Spells ('{' :: gap ++ text ++ others) (.object (member :: members))

/-- The rest of an array behind an item. -/
inductive SpellsItems : List Char → List Value → Prop
  | last {gap : List Char} (space : Spaces gap) : SpellsItems (gap ++ [']']) []
  | next {gap gap' text others : List Char} {value : Value} {values : List Value}
      (space : Spaces gap) (space' : Spaces gap') (first : Spells text value)
      (rest : SpellsItems others values) :
      SpellsItems (gap ++ ',' :: gap' ++ text ++ others) (value :: values)

inductive SpellsMember : List Char → String × Value → Prop
  | mk {name chars gap gap' text : List Char} {value : Value} (letters : Letters name chars)
      (space : Spaces gap) (space' : Spaces gap') (written : Spells text value) :
      SpellsMember ('"' :: name ++ '"' :: gap ++ ':' :: gap' ++ text) (String.ofList chars, value)

/-- The rest of an object behind a member. -/
inductive SpellsMembers : List Char → List (String × Value) → Prop
  | last {gap : List Char} (space : Spaces gap) : SpellsMembers (gap ++ ['}']) []
  | next {gap gap' text others : List Char} {member : String × Value}
      {members : List (String × Value)} (space : Spaces gap) (space' : Spaces gap')
      (first : SpellsMember text member) (rest : SpellsMembers others members) :
      SpellsMembers (gap ++ ',' :: gap' ++ text ++ others) (member :: members)

end

mutual

def Value.tree : Value → Tree
  | .null => .null
  | .bool b => .bool b
  | .integer i => .number (integerNumeral i).value
  | .string s => .string (.ok s)
  | .array items => .array (Value.trees items) .closed
  | .object members => .object (Value.memberTrees members) .closed

def Value.trees : List Value → List Tree
  | [] => []
  | v :: vs => v.tree :: Value.trees vs

def Value.memberTrees : List (String × Value) → List (Except Fault String × Tree)
  | [] => []
  | (name, v) :: rest => (.ok name, v.tree) :: Value.memberTrees rest

end

theorem integerText_cons (i : Int) :
    ∃ c more, integerText i = c :: more ∧ isSpace (some c) = false ∧ c ≠ ']' := by
  have digit : ∀ d < 10, isSpace (some d.digitChar) = false ∧ d.digitChar ≠ ']' := by decide
  cases i with
  | ofNat n =>
    obtain ⟨d, small, more, eq⟩ := toDigits_cons n
    exact ⟨d.digitChar, more, eq, digit d small⟩
  | negSucc n => exact ⟨'-', _, rfl, rfl, by decide⟩

/-- A value starts with a character that is no space and closes no array. -/
theorem Spells.cons {text : List Char} {v : Value} (h : Spells text v) :
    ∃ c more, text = c :: more ∧ isSpace (some c) = false ∧ c ≠ ']' := by
  cases h with
  | integer i => exact integerText_cons i
  | null | yes | no | string | emptyArray | array | emptyObject | object =>
    exact ⟨_, _, rfl, rfl, by decide⟩

/-- White space in front of a value is passed over. -/
theorem Spaces.scanValue {gap : List Char} (h : Spaces gap) (fuel : Nat) (text : List Glyph) :
    scanValue fuel (glyphsOf gap ++ text) = JsonText.scanValue fuel text := by
  cases fuel with
  | zero => rfl
  | succ fuel => rw [JsonText.scanValue, JsonText.scanValue, h.skip]

theorem scanValue_array {fuel : Nat} {text more rest : List Glyph} {ts : List Tree} {c : Char}
    (skipped : skipSpace text = some c :: more) (inside : c ≠ ']')
    (items : scanItems fuel (some c :: more) = (ts, .closed, rest)) :
    scanValue (fuel + 1) (some '[' :: text) = (.array ts .closed, rest) := by
  rw [scanValue, skipSpace_cons rfl]
  simp only [skipped]
  split
  next h => cases h; exact absurd rfl inside
  next h => cases h
  next => rw [items]

theorem scanItems_last {fuel : Nat} {text more rest : List Glyph} {t : Tree}
    (first : scanValue fuel text = (t, more)) (skipped : skipSpace more = some ']' :: rest) :
    scanItems (fuel + 1) text = ([t], .closed, rest) := by
  rw [scanItems, first]
  simp only [skipped]

theorem scanItems_next {fuel : Nat} {text more after others rest : List Glyph} {t : Tree}
    {ts : List Tree} {c : Char} (first : scanValue fuel text = (t, more))
    (skipped : skipSpace more = some ',' :: after) (further : skipSpace after = some c :: others)
    (inside : c ≠ ']') (items : scanItems fuel (some c :: others) = (ts, .closed, rest)) :
    scanItems (fuel + 1) text = (t :: ts, .closed, rest) := by
  rw [scanItems, first]
  simp only [skipped, further]
  split
  next h => cases h
  next h => cases h; exact absurd rfl inside
  next => rw [items]

theorem scanValue_object {fuel : Nat} {text more rest : List Glyph}
    {ms : List (Except Fault String × Tree)} (skipped : skipSpace text = some '"' :: more)
    (members : scanMembers fuel more = (ms, .closed, rest)) :
    scanValue (fuel + 1) (some '\x7b' :: text) = (.object ms .closed, rest) := by
  rw [scanValue, skipSpace_cons rfl]
  simp only [skipped, members]

section Member

variable {fuel : Nat} {name chars gap : List Char} {text more rest : List Glyph} {t : Tree}

theorem scanMembers_last (letters : Letters name chars) (space : Spaces gap)
    (first : scanValue fuel text = (t, more)) (skipped : skipSpace more = some '\x7d' :: rest) :
    scanMembers (fuel + 1) (glyphsOf name ++ some '"' :: (glyphsOf gap ++ some ':' :: text)) =
      ([(.ok (String.ofList chars), t)], .closed, rest) := by
  rw [scanMembers, letters.scan_start]
  simp only [space.skip_cons (c := ':') rfl, first, skipped]

theorem scanMembers_next {after others : List Glyph} {ms : List (Except Fault String × Tree)}
    (letters : Letters name chars) (space : Spaces gap) (first : scanValue fuel text = (t, more))
    (skipped : skipSpace more = some ',' :: after) (further : skipSpace after = some '"' :: others)
    (members : scanMembers fuel others = (ms, .closed, rest)) :
    scanMembers (fuel + 1) (glyphsOf name ++ some '"' :: (glyphsOf gap ++ some ':' :: text)) =
      ((.ok (String.ofList chars), t) :: ms, .closed, rest) := by
  rw [scanMembers, letters.scan_start]
  simp only [space.skip_cons (c := ':') rfl, first, skipped, further, members]

end Member

theorem SpellsItems.ends {text : List Char} {values : List Value} (h : SpellsItems text values)
    (rest : List Glyph) : Ends (glyphsOf text ++ rest) := by
  cases h with
  | last space =>
    rw [glyphsOf_append, List.append_assoc]
    exact space.ends (ends_cons (by decide) rest)
  | next space _ _ _ =>
    rw [List.append_assoc, List.append_assoc, glyphsOf_append, List.append_assoc]
    exact space.ends (ends_cons (by decide) _)

theorem SpellsMembers.ends {text : List Char} {members : List (String × Value)}
    (h : SpellsMembers text members) (rest : List Glyph) : Ends (glyphsOf text ++ rest) := by
  cases h with
  | last space =>
    rw [glyphsOf_append, List.append_assoc]
    exact space.ends (ends_cons (by decide) rest)
  | next space _ _ _ =>
    rw [List.append_assoc, List.append_assoc, glyphsOf_append, List.append_assoc]
    exact space.ends (ends_cons (by decide) _)

mutual

/-- Every text of a value is scanned to the value, by induction on how the text is made up; the
bound goes down with every level and every item. -/
theorem Spells.scan {text : List Char} {v : Value} (h : Spells text v) {fuel : Nat}
    (enough : 2 * text.length ≤ fuel) {rest : List Glyph} (stop : Ends rest) :
    scanValue fuel (glyphsOf text ++ rest) = (v.tree, rest) := by
  obtain ⟨c, more, head, _, _⟩ := h.cons
  obtain ⟨fuel, rfl⟩ : ∃ k, fuel = k + 1 :=
    ⟨fuel - 1, by rw [head, List.length_cons] at enough; omega⟩
  clear head
  cases h with
  | null | yes | no => rfl
  | integer i => exact scanValue_integer i fuel stop
  | @string text chars letters =>
    rw [show glyphsOf ('"' :: text ++ ['"']) ++ rest =
      some '"' :: (glyphsOf text ++ some '"' :: rest) by simp, scanValue, skipSpace_cons rfl]
    simp only [letters.scan_start rest]
    rfl
  | @emptyArray gap space =>
    rw [show glyphsOf ('[' :: gap ++ [']']) ++ rest =
      some '[' :: (glyphsOf gap ++ some ']' :: rest) by simp, scanValue, skipSpace_cons rfl]
    simp only [space.skip_cons (c := ']') rfl rest]
    rfl
  | @array gap text others value values space first behind =>
    obtain ⟨c, tail, head, plain, inside⟩ := first.cons
    simp only [List.length_cons, List.length_append] at enough
    obtain ⟨fuel, rfl⟩ : ∃ k, fuel = k + 1 :=
      ⟨fuel - 1, by rw [head, List.length_cons] at enough; omega⟩
    have item := first.scan (show _ ≤ fuel by omega) (behind.ends rest)
    have items := behind.scan (show _ ≤ fuel + 1 by omega) item
    rw [show glyphsOf ('[' :: gap ++ text ++ others) ++ rest =
      some '[' :: (glyphsOf gap ++ (glyphsOf text ++ (glyphsOf others ++ rest))) by simp]
    rw [head, glyphsOf_cons_append] at items ⊢
    exact scanValue_array (space.skip_cons plain _) inside items
  | @emptyObject gap space =>
    rw [show glyphsOf ('{' :: gap ++ ['}']) ++ rest =
      some '{' :: (glyphsOf gap ++ some '}' :: rest) by simp, scanValue, skipSpace_cons rfl]
    simp only [space.skip_cons (c := '}') rfl rest]
    rfl
  | @object gap text others member members space first behind =>
    cases first with
    | @mk name chars gap₁ gap₂ text value letters space₁ space₂ written =>
      simp only [List.length_cons, List.length_append] at enough
      obtain ⟨fuel, rfl⟩ : ∃ k, fuel = k + 1 := ⟨fuel - 1, by omega⟩
      have item := written.scan (show _ ≤ fuel by omega) (behind.ends rest)
      rw [← space₂.scanValue] at item
      have items := behind.scan (show _ ≤ fuel + 1 by omega) letters space₁ item
      rw [show glyphsOf ('{' :: gap ++ ('"' :: name ++ '"' :: gap₁ ++ ':' :: gap₂ ++ text) ++
          others) ++ rest = some '{' :: (glyphsOf gap ++ some '"' :: (glyphsOf name ++ some '"' ::
            (glyphsOf gap₁ ++ some ':' :: (glyphsOf gap₂ ++ (glyphsOf text ++
              (glyphsOf others ++ rest)))))) by simp]
      exact scanValue_object (space.skip_cons rfl _) items

/-- The items of an array, once the first of them has been scanned. -/
theorem SpellsItems.scan {others : List Char} {values : List Value} (h : SpellsItems others values)
    {fuel : Nat} (enough : 2 * others.length ≤ fuel + 1) {text rest : List Glyph} {t : Tree}
    (first : scanValue fuel text = (t, glyphsOf others ++ rest)) :
    scanItems (fuel + 1) text = (t :: Value.trees values, .closed, rest) := by
  cases h with
  | @last gap space =>
    rw [show glyphsOf (gap ++ [']']) ++ rest = glyphsOf gap ++ some ']' :: rest by simp] at first
    exact scanItems_last first (space.skip_cons rfl rest)
  | @next gap gap' text' others value values space space' second behind =>
    obtain ⟨c, tail, head, plain, inside⟩ := second.cons
    simp only [List.length_cons, List.length_append] at enough
    obtain ⟨fuel, rfl⟩ : ∃ k, fuel = k + 1 :=
      ⟨fuel - 1, by rw [head, List.length_cons] at enough; omega⟩
    have item := second.scan (show _ ≤ fuel by omega) (behind.ends rest)
    have items := behind.scan (show _ ≤ fuel + 1 by omega) item
    rw [show glyphsOf (gap ++ ',' :: gap' ++ text' ++ others) ++ rest = glyphsOf gap ++ some ',' ::
      (glyphsOf gap' ++ (glyphsOf text' ++ (glyphsOf others ++ rest))) by simp] at first
    rw [head, glyphsOf_cons_append] at first items
    exact scanItems_next first (space.skip_cons rfl _) (space'.skip_cons plain _) inside items

/-- The members of an object, once the value of the first of them has been scanned. -/
theorem SpellsMembers.scan {others : List Char} {members : List (String × Value)}
    (h : SpellsMembers others members) {fuel : Nat} (enough : 2 * others.length ≤ fuel + 1)
    {name chars gap : List Char} (letters : Letters name chars) (space : Spaces gap)
    {text rest : List Glyph} {t : Tree}
    (first : scanValue fuel text = (t, glyphsOf others ++ rest)) :
    scanMembers (fuel + 1) (glyphsOf name ++ some '"' :: (glyphsOf gap ++ some ':' :: text)) =
      ((.ok (String.ofList chars), t) :: Value.memberTrees members, .closed, rest) := by
  cases h with
  | @last gap' space' =>
    rw [show glyphsOf (gap' ++ ['}']) ++ rest = glyphsOf gap' ++ some '}' :: rest by simp] at first
    exact scanMembers_last letters space first (space'.skip_cons rfl rest)
  | @next gap₁ gap₂ text' others member members space₁ space₂ second behind =>
    cases second with
    | @mk name' chars' gap₃ gap₄ text' value letters' space₃ space₄ written =>
      simp only [List.length_cons, List.length_append] at enough
      obtain ⟨fuel, rfl⟩ : ∃ k, fuel = k + 1 := ⟨fuel - 1, by omega⟩
      have item := written.scan (show _ ≤ fuel by omega) (behind.ends rest)
      rw [← space₄.scanValue] at item
      have items := behind.scan (show _ ≤ fuel + 1 by omega) letters' space₃ item
      rw [show glyphsOf (gap₁ ++ ',' :: gap₂ ++ ('"' :: name' ++ '"' :: gap₃ ++ ':' :: gap₄ ++
          text') ++ others) ++ rest = glyphsOf gap₁ ++ some ',' :: (glyphsOf gap₂ ++ some '"' ::
            (glyphsOf name' ++ some '"' :: (glyphsOf gap₃ ++ some ':' :: (glyphsOf gap₄ ++
              (glyphsOf text' ++ (glyphsOf others ++ rest)))))) by simp] at first
      exact scanMembers_next letters space first (space₁.skip_cons rfl _) (space₂.skip_cons rfl _)
        items

end

/-- A text of a value with white space around it. -/
inductive SpellsAll : List Char → Value → Prop
  | mk {gap text gap' : List Char} {v : Value} (space : Spaces gap) (written : Spells text v)
      (space' : Spaces gap') : SpellsAll (gap ++ text ++ gap') v

/-- Whichever text of a value is scanned, the value is found and nothing is left. -/
theorem scan_spelled {text : List Char} {v : Value} (h : SpellsAll text v) :
    scan (Utf8.encode text) = ⟨v.tree, .ok ()⟩ := by
  cases h with
  | @mk gap text gap' v space written space' =>
    have stop : Ends (glyphsOf gap') := by
      have ends := space'.ends ends_nil
      rwa [List.append_nil] at ends
    have left : skipSpace (glyphsOf gap') = [] := by
      have skipped := space'.skip []
      rwa [List.append_nil] at skipped
    have read : scanValue (2 * (glyphsOf (gap ++ text ++ gap')).length + 2)
        (glyphsOf (gap ++ text ++ gap')) = (v.tree, glyphsOf gap') := by
      rw [glyphsOf_append, glyphsOf_append, List.append_assoc, space.scanValue]
      exact written.scan (by simp only [List.length_append, List.length_map]; omega) stop
    rw [scan, Utf8.glyphs_encode, scanGlyphs, read]
    simp only [left]
    rfl

end JsonText

end ClassSwap
