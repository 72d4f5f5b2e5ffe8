import ClassSwap.Json
import ClassSwap.Proofs.JsonGrammar

namespace ClassSwap

namespace JsonText

open Json (compact compactItems compactMembers escaped quoted)

mutual

def Value.ofJson : Json → Value
  | .null => .null
  | .bool b => .bool b
  | .natural n => .integer n
  | .string s => .string s
  | .array items => .array (Value.ofItems items)
  | .object members => .object (Value.ofMembers members)

def Value.ofItems : List Json → List Value
  | [] => []
  | x :: xs => .ofJson x :: Value.ofItems xs

def Value.ofMembers : List (String × Json) → List (String × Value)
  | [] => []
  | (k, x) :: xs => (k, .ofJson x) :: Value.ofMembers xs

end

theorem hexValue?_hexDigit : ∀ n < 16, Bytes.hexValue? (Bytes.hexDigit n) = some n := by
  decide

/-- The code of a control character is written in two digits behind two zeros. -/
theorem hexDigits_control {c : Char} (control : c.toNat < 32) :
    HexDigits ['0', '0', Bytes.hexDigit (c.toNat / 16), Bytes.hexDigit (c.toNat % 16)]
      c.toNat := by
  have value : ((0 * 16 + 0) * 16 + c.toNat / 16) * 16 + c.toNat % 16 = c.toNat := by omega
  have zero : Bytes.hexValue? '0' = some 0 := by decide
  simp only [HexDigits, List.map_cons, List.map_nil, hexQuad?, zero,
    hexValue?_hexDigit _ (show c.toNat / 16 < 16 by omega),
    hexValue?_hexDigit _ (show c.toNat % 16 < 16 by omega), Option.bind_eq_bind, Option.bind_some,
    value]
  rfl

/-- Every character is written in one of the ways in which it may be written. -/
theorem letters_escaped (c : Char) {text chars : List Char} (rest : Letters text chars) :
    Letters (escaped c ++ text) (c :: chars) := by
  unfold escaped
  split
  next h => subst h; exact .short rfl rest
  split
  next h => subst h; exact .short rfl rest
  split
  next h => subst h; exact .short rfl rest
  split
  next h => subst h; exact .short rfl rest
  split
  next h => subst h; exact .short rfl rest
  split
  next h => subst h; exact .short rfl rest
  split
  next h => subst h; exact .short rfl rest
  split
  next control =>
    have code := Letters.code (hexDigits_control control) (.inl (by omega)) rest
    rwa [Char.ofNat_toNat] at code
  next quote backslash _ _ _ _ _ printed => exact .plain quote backslash (by omega) rest

theorem letters_flatMap (chars : List Char) : Letters (chars.flatMap escaped) chars := by
  induction chars with
  | nil => exact .nil
  | cons c chars ih =>
    rw [List.flatMap_cons]
    exact letters_escaped c ih

theorem spells_quoted (s : String) : Spells (quoted s) (.string s) := by
  have spelled := Spells.string (letters_flatMap s.toList)
  rwa [String.ofList_toList] at spelled

theorem spellsMember_quoted (k : String) {text : List Char} {v : Value} (written : Spells text v) :
    SpellsMember (quoted k ++ ':' :: text) (k, v) := by
  have member := SpellsMember.mk (letters_flatMap k.toList) spaces_nil spaces_nil
    written
  rw [String.ofList_toList] at member
  simpa [quoted] using member

mutual

theorem spells_compact (j : Json) : Spells (compact j) (.ofJson j) := by
  cases j with
  | null => exact .null
  | bool b =>
    cases b with
    | false => exact .no
    | true => exact .yes
  | natural n => exact .integer n
  | string s => exact spells_quoted s
  | array items =>
    cases items with
    | nil => exact .emptyArray spaces_nil
    | cons x xs => exact .array spaces_nil (spells_compact x) (spells_compactItems xs)
  | object members =>
    cases members with
    | nil => exact .emptyObject spaces_nil
    | cons m ms =>
      cases m with | mk k x =>
      have spelled := Spells.object spaces_nil (spellsMember_quoted k (spells_compact x))
        (spells_compactMembers ms)
      simpa [compact, Value.ofJson, Value.ofMembers] using spelled
termination_by sizeOf j

theorem spells_compactItems (xs : List Json) :
    SpellsItems (compactItems xs) (Value.ofItems xs) := by
  cases xs with
  | nil => exact .last spaces_nil
  | cons x xs =>
    exact .next spaces_nil spaces_nil (spells_compact x) (spells_compactItems xs)
termination_by sizeOf xs

theorem spells_compactMembers (ms : List (String × Json)) :
    SpellsMembers (compactMembers ms) (Value.ofMembers ms) := by
  cases ms with
  | nil => exact .last spaces_nil
  | cons m ms =>
    cases m with | mk k x =>
    have spelled := SpellsMembers.next spaces_nil spaces_nil
      (spellsMember_quoted k (spells_compact x)) (spells_compactMembers ms)
    simpa [compactMembers, Value.ofMembers] using spelled
termination_by sizeOf ms

end

mutual

def treeOf : Json → Tree
  | .null => .null
  | .bool b => .bool b
  | .natural n => .number (.ok (.natural n))
  | .string s => .string (.ok s)
  | .array items => .array (treesOf items) .closed
  | .object members => .object (memberTreesOf members) .closed

def treesOf : List Json → List Tree
  | [] => []
  | x :: xs => treeOf x :: treesOf xs

def memberTreesOf : List (String × Json) → List (Except Fault String × Tree)
  | [] => []
  | (k, x) :: xs => (.ok k, treeOf x) :: memberTreesOf xs

end

mutual

/-- All numbers in the document are small enough to be kept exactly. -/
def Exact : Json → Prop
  | .null | .bool _ | .string _ => True
  | .natural n => n ≤ maxNatural
  | .array items => ExactItems items
  | .object members => ExactMembers members

def ExactItems : List Json → Prop
  | [] => True
  | x :: xs => Exact x ∧ ExactItems xs

def ExactMembers : List (String × Json) → Prop
  | [] => True
  | (_, x) :: xs => Exact x ∧ ExactMembers xs

end

mutual

theorem tree_ofJson (j : Json) (exact : Exact j) : (Value.ofJson j).tree = treeOf j := by
  cases j with
  | null | bool | string => rfl
  | natural n =>
    have value : (integerNumeral n).value = .ok (.natural n) := value_digitsOf exact
    rw [Value.ofJson, Value.tree, value, treeOf]
  | array items => rw [Value.ofJson, Value.tree, trees_ofItems items exact, treeOf]
  | object members =>
    rw [Value.ofJson, Value.tree, memberTrees_ofMembers members exact, treeOf]
termination_by sizeOf j

theorem trees_ofItems (xs : List Json) (exact : ExactItems xs) :
    Value.trees (Value.ofItems xs) = treesOf xs := by
  cases xs with
  | nil => rfl
  | cons x xs =>
    rw [Value.ofItems, Value.trees, tree_ofJson x exact.1, trees_ofItems xs exact.2, treesOf]
termination_by sizeOf xs

theorem memberTrees_ofMembers (ms : List (String × Json)) (exact : ExactMembers ms) :
    Value.memberTrees (Value.ofMembers ms) = memberTreesOf ms := by
  cases ms with
  | nil => rfl
  | cons m ms =>
    cases m with | mk k x =>
    rw [Value.ofMembers, Value.memberTrees, tree_ofJson x exact.1,
      memberTrees_ofMembers ms exact.2, memberTreesOf]
termination_by sizeOf ms

end

/-- A document in its compact form is scanned to itself, and nothing is left. -/
theorem scan_compact (j : Json) (exact : Exact j) :
    scan (Utf8.encode (compact j)) = ⟨treeOf j, .ok ()⟩ := by
  have spelled := SpellsAll.mk spaces_nil (spells_compact j) spaces_nil
  rw [List.nil_append, List.append_nil] at spelled
  rw [scan_spelled spelled, tree_ofJson j exact]

theorem length_flatMap_escaped (text : List Char) :
    text.length ≤ (text.flatMap escaped).length := by
  induction text with
  | nil => exact Nat.zero_le _
  | cons c text ih =>
    have : 1 ≤ (escaped c).length := by
      unfold escaped
      repeat' split
      all_goals simp
    simp only [List.flatMap_cons, List.length_cons, List.length_append]
    omega

theorem length_le_compactMembers {k text : String} {members : List (String × Json)}
    (mem : (k, .string text) ∈ members) :
    text.toList.length ≤ (compactMembers members).length := by
  induction members with
  | nil => cases mem
  | cons m members ih =>
    obtain ⟨l, x⟩ := m
    simp only [compactMembers, List.length_cons, List.length_append]
    rcases List.mem_cons.mp mem with eq | mem
    · cases eq
      have := JsonText.length_flatMap_escaped text.toList
      simp only [compact, quoted, List.length_cons, List.length_append]
      omega
    · have := ih mem
      omega

theorem length_compact_object (m : String × Json) (members : List (String × Json)) :
    (compact (.object (m :: members))).length = (compactMembers (m :: members)).length := by
  obtain ⟨k, x⟩ := m
  simp [compact, compactMembers]

end JsonText

end ClassSwap
