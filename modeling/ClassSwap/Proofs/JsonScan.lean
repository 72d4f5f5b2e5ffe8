import ClassSwap.JsonText.Scan
import Mathlib.Tactic.IntervalCases

namespace ClassSwap

namespace JsonText

abbrev glyphsOf (text : List Char) : List Glyph := text.map some

theorem glyphsOf_append (text more : List Char) :
    glyphsOf (text ++ more) = glyphsOf text ++ glyphsOf more :=
  List.map_append

theorem glyphsOf_cons_append (c : Char) (text : List Char) (rest : List Glyph) :
    glyphsOf (c :: text) ++ rest = some c :: (glyphsOf text ++ rest) :=
  rfl

/-- Nothing but white space. -/
def Spaces (text : List Char) : Prop := ∀ c ∈ text, isSpace (some c) = true

theorem spaces_nil : Spaces [] := nofun

theorem skipSpace_cons {c : Char} (plain : isSpace (some c) = false) (rest : List Glyph) :
    skipSpace (some c :: rest) = some c :: rest := by
  rw [skipSpace, List.dropWhile_cons_of_neg (by simp [plain])]

theorem Spaces.skip {text : List Char} (h : Spaces text) (rest : List Glyph) :
    skipSpace (glyphsOf text ++ rest) = skipSpace rest := by
  refine List.dropWhile_append_of_pos fun g mem => ?_
  obtain ⟨c, within, rfl⟩ := List.mem_map.mp mem
  exact h c within

theorem Spaces.skip_cons {text : List Char} (h : Spaces text) {c : Char}
    (plain : isSpace (some c) = false) (rest : List Glyph) :
    skipSpace (glyphsOf text ++ some c :: rest) = some c :: rest := by
  rw [h.skip, skipSpace_cons plain]

/-- What may follow a number: nothing that could belong to it. -/
def Ends (rest : List Glyph) : Prop :=
  ∀ g more, rest = g :: more →
    digit? g = none ∧ g ≠ some '.' ∧ g ≠ some 'e' ∧ g ≠ some 'E'

theorem ends_nil : Ends [] := nofun

theorem ends_cons {g : Glyph}
    (foreign : digit? g = none ∧ g ≠ some '.' ∧ g ≠ some 'e' ∧ g ≠ some 'E') (rest : List Glyph) :
    Ends (g :: rest) := by
  rintro _ _ ⟨⟩
  exact foreign

theorem ends_space {c : Char} (space : isSpace (some c) = true) (rest : List Glyph) :
    Ends (some c :: rest) := by
  simp only [isSpace, Bool.or_eq_true, beq_iff_eq] at space
  refine ends_cons ?_ rest
  rcases space with ((rfl | rfl) | rfl) | rfl <;> decide

/-- White space ends a number, and so does a sign behind it. -/
theorem Spaces.ends {text : List Char} (h : Spaces text) {rest : List Glyph} (stop : Ends rest) :
    Ends (glyphsOf text ++ rest) := by
  cases text with
  | nil => exact stop
  | cons c text => exact ends_space (h c List.mem_cons_self) _

theorem digit?_digitChar : ∀ d < 10, digit? (some d.digitChar) = some d := by
  decide

theorem spanDigits_append {text : List Char} {digits : List Nat}
    (read : text.map (fun c => digit? (some c)) = digits.map some) {rest : List Glyph}
    (stop : Ends rest) : spanDigits (glyphsOf text ++ rest) = (digits, rest) := by
  induction text generalizing digits with
  | nil =>
    cases digits with
    | cons d digits => cases read
    | nil =>
      cases rest with
      | nil => rfl
      | cons g rest => simp [spanDigits, (stop g rest rfl).1]
  | cons c text ih =>
    cases digits with
    | nil => cases read
    | cons d digits =>
      simp only [List.map_cons, List.cons.injEq] at read
      obtain ⟨first, others⟩ := read
      simp only [List.map_cons, List.cons_append, spanDigits, first, ih others]

def digitsOf (n : Nat) : List Nat := if n < 10 then [n] else digitsOf (n / 10) ++ [n % 10]

theorem digit?_toDigits (n : Nat) :
    (Nat.toDigits 10 n).map (fun c => digit? (some c)) = (digitsOf n).map some := by
  induction n using digitsOf.induct with
  | case1 n small =>
    rw [digitsOf, if_pos small, Nat.toDigits_of_lt_base small]
    simp [digit?_digitChar n small]
  | case2 n large ih =>
    rw [digitsOf, if_neg large, Nat.toDigits_of_base_le (by omega) (by omega), List.map_append, ih,
      List.map_append]
    simp [digit?_digitChar (n % 10) (by omega)]

theorem gather_concat {s m d : Nat} {digits : List Nat} (h : gather s digits = (m, 0))
    (fits : 10 * m + d ≤ maxNatural) : gather s (digits ++ [d]) = (10 * m + d, 0) := by
  induction digits generalizing s with
  | nil =>
    cases h
    simp [gather, Nat.not_lt.mpr fits]
  | cons e digits ih =>
    rw [List.cons_append, gather]
    rw [gather] at h
    split at h
    next large =>
      simp only [Prod.mk.injEq, List.length_cons] at h
      omega
    next small =>
      rw [if_neg small]
      exact ih h

theorem gather_digitsOf {n : Nat} (fits : n ≤ maxNatural) : gather 0 (digitsOf n) = (n, 0) := by
  induction n using digitsOf.induct with
  | case1 n small =>
    rw [digitsOf, if_pos small]
    simp [gather, Nat.not_lt.mpr fits]
  | case2 n large ih =>
    rw [digitsOf, if_neg large, gather_concat (ih (by omega)) (by omega)]
    congr 1
    omega

theorem digitsOf_ne_nil (n : Nat) : digitsOf n ≠ [] := by
  rw [digitsOf]
  split <;> simp

theorem digitsOf_head (n : Nat) : (digitsOf n).head? = some 0 → n = 0 := by
  induction n using digitsOf.induct with
  | case1 n small =>
    rw [digitsOf, if_pos small]
    simp
  | case2 n large ih =>
    rw [digitsOf, if_neg large, List.head?_append]
    intro zero
    have := digitsOf_ne_nil (n / 10)
    cases digits : digitsOf (n / 10) with
    | nil => exact absurd digits this
    | cons d rest =>
      rw [digits] at zero
      have := ih (by rw [digits]; exact zero)
      omega

/-- Behind the digits of a number there is neither a fraction nor an exponent. -/
theorem scanTail_ends (minus : Bool) (whole : List Nat) {rest : List Glyph} (stop : Ends rest) :
    scanTail minus whole none rest = .ok (⟨minus, whole, none, none⟩, rest) := by
  unfold scanTail
  split
  next => exact absurd rfl (stop _ _ rfl).2.2.1
  next => exact absurd rfl (stop _ _ rfl).2.2.2
  next => rfl

theorem scanNumeral_toDigits (minus : Bool) (n : Nat) {rest : List Glyph} (stop : Ends rest) :
    scanNumeral minus (glyphsOf (Nat.toDigits 10 n) ++ rest) =
      .ok (⟨minus, digitsOf n, none, none⟩, rest) := by
  unfold scanNumeral
  rw [spanDigits_append (digit?_toDigits n) stop]
  have lone : (digitsOf n).head? = some 0 → (digitsOf n).length = 1 := by
    intro zero
    rw [digitsOf_head n zero, digitsOf, if_pos (by omega)]
    rfl
  cases digits : digitsOf n with
  | nil => exact absurd digits (digitsOf_ne_nil n)
  | cons d more =>
    rw [digits] at lone
    have sound : ((d :: more).head? == some 0 && (d :: more).length != 1) = false := by
      by_cases zero : d = 0
      · simpa [zero] using lone
      · simp [zero]
    simp only [sound, Bool.false_eq_true, if_false]
    split
    next => exact absurd rfl (stop _ _ rfl).2.1
    next => exact scanTail_ends minus (d :: more) stop

theorem toDigits_cons (n : Nat) : ∃ d < 10, ∃ more, Nat.toDigits 10 n = d.digitChar :: more := by
  induction n using digitsOf.induct with
  | case1 n small => exact ⟨n, small, [], Nat.toDigits_of_lt_base small⟩
  | case2 n large ih =>
    obtain ⟨d, small, more, eq⟩ := ih
    exact ⟨d, small, more ++ [(n % 10).digitChar], by
      rw [Nat.toDigits_of_base_le (by omega) (by omega), eq, List.cons_append]⟩

theorem scanValue_digit (fuel : Nat) {d : Nat} (small : d < 10) (rest : List Glyph) :
    scanValue (fuel + 1) (some d.digitChar :: rest) =
      numberTree (scanNumeral false (some d.digitChar :: rest)) := by
  interval_cases d <;> rfl

def integerText : Int → List Char
  | .ofNat n => Nat.toDigits 10 n
  | .negSucc n => '-' :: Nat.toDigits 10 (n + 1)

def integerNumeral : Int → Numeral
  | .ofNat n => ⟨false, digitsOf n, none, none⟩
  | .negSucc n => ⟨true, digitsOf (n + 1), none, none⟩

theorem scanValue_integer (i : Int) (fuel : Nat) {rest : List Glyph} (stop : Ends rest) :
    scanValue (fuel + 1) (glyphsOf (integerText i) ++ rest) =
      (.number (integerNumeral i).value, rest) := by
  cases i with
  | ofNat n =>
    have read := scanNumeral_toDigits false n stop
    obtain ⟨d, small, more, eq⟩ := toDigits_cons n
    rw [integerText, integerNumeral, eq, glyphsOf_cons_append, scanValue_digit fuel small]
    rw [eq, glyphsOf_cons_append] at read
    rw [read]
    rfl
  | negSucc n =>
    rw [integerText, integerNumeral, glyphsOf_cons_append, scanValue, skipSpace_cons rfl]
    simp only [scanNumeral_toDigits true (n + 1) stop]
    rfl

/-- The numeral that stands for a natural number has its value. -/
theorem value_digitsOf {n : Nat} (fits : n ≤ maxNatural) :
    (Numeral.mk false (digitsOf n) none none).value = .ok (.natural n) := by
  simp [Numeral.value, gather_digitsOf fits]

theorem value_digitsOf_minus {n : Nat} (some_ : 0 < n) (fits : n ≤ 9223372036854775808) :
    (Numeral.mk true (digitsOf n) none none).value = .ok (.negative n) := by
  have gathered : gather 0 (digitsOf n) = (n, 0) :=
    gather_digitsOf (by unfold maxNatural; omega)
  simp [Numeral.value, gathered, some_, fits]

/-- An integer of 64 bits, with or without a sign, is kept exactly. -/
theorem value_integerNumeral {i : Int} (low : -9223372036854775808 ≤ i)
    (high : i ≤ 18446744073709551615) : ∃ n, (integerNumeral i).value = .ok n := by
  cases i with
  | ofNat n =>
    have fits : n ≤ maxNatural := by
      unfold maxNatural
      simp only [Int.ofNat_eq_natCast] at high
      omega
    exact ⟨_, value_digitsOf fits⟩
  | negSucc n => exact ⟨_, value_digitsOf_minus (Nat.succ_pos n) (by omega)⟩

def HexDigits (digits : List Char) (n : Nat) : Prop := hexQuad? (glyphsOf digits) = some (n, [])

/-- What stands between the quotes of a string, and the characters it means. A character stands for
itself, or it is written with one of the short escapes, or by its code: in four digits, or in two
halves of four digits each. -/
inductive Letters : List Char → List Char → Prop
  | nil : Letters [] []
  | plain {c : Char} {text chars : List Char} (quote : c ≠ '"') (backslash : c ≠ '\\')
      (printed : 32 ≤ c.toNat) (rest : Letters text chars) : Letters (c :: text) (c :: chars)
  | short {letter c : Char} {text chars : List Char} (known : escape? (some letter) = some c)
      (rest : Letters text chars) : Letters ('\\' :: letter :: text) (c :: chars)
  | code {digits text chars : List Char} {n : Nat} (read : HexDigits digits n)
      (whole : n < 0xD800 ∨ 0xDFFF < n) (rest : Letters text chars) :
      Letters ('\\' :: 'u' :: digits ++ text) (Char.ofNat n :: chars)
  | halves {front back text chars : List Char} {high low : Nat} (first : HexDigits front high)
      (above : 0xD800 ≤ high ∧ high ≤ 0xDBFF) (second : HexDigits back low)
      (below : 0xDC00 ≤ low ∧ low ≤ 0xDFFF) (rest : Letters text chars) :
      Letters ('\\' :: 'u' :: front ++ '\\' :: 'u' :: back ++ text)
        (Char.ofNat (0x10000 + (high - 0xD800) * 1024 + (low - 0xDC00)) :: chars)

theorem HexDigits.append {digits : List Char} {n : Nat} (h : HexDigits digits n)
    (rest : List Glyph) : hexQuad? (glyphsOf digits ++ rest) = some (n, rest) := by
  unfold HexDigits at h
  match digits with
  | [] | [_] | [_, _] | [_, _, _] => simp [hexQuad?] at h
  | a :: b :: c :: d :: more =>
    simp only [List.map_cons, hexQuad?, Option.pure_def, Option.bind_eq_bind,
      Option.bind_eq_some_iff, Option.some.injEq, Prod.mk.injEq] at h
    obtain ⟨a', ha, b', hb, c', hc, d', hd, value, none_⟩ := h
    simp only [List.map_cons, List.cons_append, hexQuad?, ha, hb, hc, hd, none_, List.nil_append,
      Option.pure_def, Option.bind_eq_bind, Option.bind_some, value]

/-- A string that is read without any trouble so far. -/
def Draft.plain (chars : List Char) : Draft := ⟨.ok chars, none, false⟩

theorem scanString_plain {c : Char} (quote : c ≠ '"') (backslash : c ≠ '\\')
    (printed : 32 ≤ c.toNat) (fuel : Nat) (d : Draft) (rest : List Glyph) :
    scanString (fuel + 1) d (some c :: rest) = scanString fuel (d.push c) rest := by
  rw [scanString]
  · rw [if_neg (by omega)]
  · intro h
    cases h
    exact quote rfl
  · intro h
    cases h
    exact backslash rfl

theorem scanString_short {letter c : Char} (known : escape? (some letter) = some c) (fuel : Nat)
    (chars : List Char) (rest : List Glyph) :
    scanString (fuel + 1) (.plain chars) (some '\\' :: some letter :: rest) =
      scanString fuel (.plain (c :: chars)) rest := by
  rw [scanString]
  · simp only [known]
    rfl
  · rintro ⟨⟩
    cases known

theorem scanString_unit {digits : List Char} {n : Nat} (read : HexDigits digits n) (fuel : Nat)
    (d : Draft) (rest : List Glyph) :
    scanString (fuel + 1) d (some '\\' :: some 'u' :: (glyphsOf digits ++ rest)) =
      scanString fuel (d.pushUnit n) rest := by
  rw [scanString]
  simp only [read.append rest]

theorem pushUnit_whole {n : Nat} (whole : n < 0xD800 ∨ 0xDFFF < n) (chars : List Char) :
    (Draft.plain chars).pushUnit n = .plain (Char.ofNat n :: chars) := by
  have low : (decide (0xDC00 ≤ n) && decide (n ≤ 0xDFFF)) = false := by
    simp only [Bool.and_eq_false_iff, decide_eq_false_iff_not]
    omega
  have high : (decide (0xD800 ≤ n) && decide (n ≤ 0xDBFF)) = false := by
    simp only [Bool.and_eq_false_iff, decide_eq_false_iff_not]
    omega
  simp only [Draft.plain, Draft.pushUnit, low, high, Bool.false_eq_true, if_false]

theorem pushUnit_halves {high low : Nat} (above : 0xD800 ≤ high ∧ high ≤ 0xDBFF)
    (below : 0xDC00 ≤ low ∧ low ≤ 0xDFFF) (chars : List Char) :
    ((Draft.plain chars).pushUnit high).pushUnit low =
      .plain (Char.ofNat (0x10000 + (high - 0xD800) * 1024 + (low - 0xDC00)) :: chars) := by
  have early : (decide (0xDC00 ≤ high) && decide (high ≤ 0xDFFF)) = false := by
    simp only [Bool.and_eq_false_iff, decide_eq_false_iff_not]
    omega
  have waits : (decide (0xD800 ≤ high) && decide (high ≤ 0xDBFF)) = true := by simp [above]
  have fits : (decide (0xDC00 ≤ low) && decide (low ≤ 0xDFFF)) = true := by simp [below]
  simp only [Draft.plain, Draft.pushUnit, early, waits, fits, Bool.false_eq_true, if_false, if_true]

/-- The letters of a string are scanned up to its closing quote, by induction on the letters. -/
theorem Letters.scan {text chars : List Char} (h : Letters text chars) {fuel : Nat}
    (enough : text.length < fuel) (before : List Char) (rest : List Glyph) :
    scanString fuel (.plain before) (glyphsOf text ++ some '"' :: rest) =
      .ok (.ok (String.ofList (before.reverse ++ chars)), rest) := by
  induction h generalizing fuel before with
  | nil =>
    obtain ⟨fuel, rfl⟩ : ∃ k, fuel = k + 1 := ⟨fuel - 1, by simp at enough; omega⟩
    simp [scanString, Draft.finish, Draft.plain]
  | @plain c _ _ quote backslash printed _ ih =>
    obtain ⟨fuel, rfl⟩ : ∃ k, fuel = k + 1 := ⟨fuel - 1, by simp at enough; omega⟩
    rw [glyphsOf_cons_append, scanString_plain quote backslash printed]
    refine (ih (by simp at enough; omega) (c :: before)).trans ?_
    simp
  | @short _ c _ _ known _ ih =>
    obtain ⟨fuel, rfl⟩ : ∃ k, fuel = k + 1 := ⟨fuel - 1, by simp at enough; omega⟩
    rw [glyphsOf_cons_append, glyphsOf_cons_append, scanString_short known]
    refine (ih (by simp at enough; omega) (c :: before)).trans ?_
    simp
  | @code _ _ _ n read whole _ ih =>
    simp only [List.length_cons, List.length_append] at enough
    obtain ⟨fuel, rfl⟩ : ∃ k, fuel = k + 1 := ⟨fuel - 1, by omega⟩
    rw [List.cons_append, List.cons_append, glyphsOf_cons_append, glyphsOf_cons_append,
      glyphsOf_append, List.append_assoc, scanString_unit read, pushUnit_whole whole]
    refine (ih (by omega) (Char.ofNat n :: before)).trans ?_
    simp
  | @halves _ _ _ _ high low first above second below _ ih =>
    simp only [List.length_cons, List.length_append] at enough
    obtain ⟨fuel, rfl⟩ : ∃ k, fuel = k + 2 := ⟨fuel - 2, by omega⟩
    rw [List.append_assoc, List.cons_append, List.cons_append, List.cons_append, List.cons_append,
      glyphsOf_cons_append, glyphsOf_cons_append, glyphsOf_append, List.append_assoc,
      scanString_unit first, glyphsOf_cons_append, glyphsOf_cons_append, glyphsOf_append,
      List.append_assoc, scanString_unit second, pushUnit_halves above below]
    refine (ih (by omega) (Char.ofNat _ :: before)).trans ?_
    simp

theorem Letters.scan_start {text chars : List Char} (h : Letters text chars) (rest : List Glyph) :
    scanString ((glyphsOf text ++ some '"' :: rest).length + 1) .start
        (glyphsOf text ++ some '"' :: rest) =
      .ok (.ok (String.ofList chars), rest) := by
  have enough : text.length < (glyphsOf text ++ some '"' :: rest).length + 1 := by
    simp only [List.length_append, List.length_map]
    omega
  exact h.scan enough [] rest

end JsonText

end ClassSwap
