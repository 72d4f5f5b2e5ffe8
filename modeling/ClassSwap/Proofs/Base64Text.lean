import ClassSwap.Proofs.BlankText
import ClassSwap.Wire.Frame
import Mathlib.Tactic.Common

namespace ClassSwap

namespace Base64

theorem valueOf?_symbolOf : ∀ n < 64, valueOf? (symbolOf n) = some n := by
  decide

theorem symbolOf_ne_pad : ∀ n < 64, symbolOf n ≠ pad := by
  decide

/-- The bytes that base64 text is made of: the symbols and the padding. -/
def IsSymbol (b : UInt8) : Prop := b = pad ∨ ∃ n < 64, b = symbolOf n

theorem symbol_plain : ∀ n < 64, (symbolOf n).toNat < 128 ∧
    isBlank (Char.ofNat (symbolOf n).toNat) = false := by
  decide

theorem IsSymbol.plain {b : UInt8} (h : IsSymbol b) :
    b.toNat < 128 ∧ isBlank (Char.ofNat b.toNat) = false := by
  rcases h with rfl | ⟨n, hn, rfl⟩
  · decide
  · exact symbol_plain n hn

theorem encodeSymbols_isSymbol (bytes : Bytes) : ∀ b ∈ encodeSymbols bytes, IsSymbol b := by
  have symbol {n : Nat} (h : n < 64) : IsSymbol (symbolOf n) := .inr ⟨n, h, rfl⟩
  induction bytes using encodeSymbols.induct with
  | case1 => simp [encodeSymbols]
  | case2 a =>
    have := a.toNat_lt
    simp only [encodeSymbols, List.forall_mem_cons]
    exact ⟨symbol (by omega), symbol (by omega), .inl rfl, .inl rfl, by simp⟩
  | case3 a b =>
    have := a.toNat_lt
    have := b.toNat_lt
    simp only [encodeSymbols, List.forall_mem_cons]
    exact ⟨symbol (by omega), symbol (by omega), symbol (by omega), .inl rfl, by simp⟩
  | case4 a b c rest ih =>
    have := a.toNat_lt
    have := b.toNat_lt
    have := c.toNat_lt
    simp only [encodeSymbols, List.forall_mem_cons]
    exact ⟨symbol (by omega), symbol (by omega), symbol (by omega), symbol (by omega), ih⟩

theorem encodeSymbols_length (bytes : Bytes) : (encodeSymbols bytes).length % 4 = 0 := by
  induction bytes using encodeSymbols.induct with
  | case1 | case2 | case3 => simp [encodeSymbols]
  | case4 a b c rest ih =>
    simp only [encodeSymbols, List.length_cons]
    omega

theorem length_le_encodeSymbols (bytes : Bytes) :
    bytes.length ≤ (encodeSymbols bytes).length := by
  induction bytes using encodeSymbols.induct with
  | case1 => exact Nat.le_refl _
  | case2 | case3 => simp [encodeSymbols]
  | case4 a b c rest ih =>
    simp only [encodeSymbols, List.length_cons]
    omega

theorem valueAt_symbolOf {n : Nat} (h : n < 64) (offset : Nat) :
    valueAt (symbolOf n) offset = .ok n := by
  rw [valueAt, valueOf?_symbolOf n h]

theorem lastGroup_symbol {n : Nat} (h : n < 64) (start : Nat) (symbols : List Nat) (rest : Bytes) :
    lastGroup start symbols 0 (symbolOf n :: rest) = lastGroup start (symbols ++ [n]) 0 rest := by
  simp [lastGroup, symbolOf_ne_pad n h, valueOf?_symbolOf n h]

theorem lastGroup_pad {symbols : List Nat} (two : 2 ≤ symbols.length) (start pads : Nat)
    (rest : Bytes) :
    lastGroup start symbols pads (pad :: rest) = lastGroup start symbols (pads + 1) rest := by
  simp [lastGroup, Nat.not_lt.mpr two]

theorem byte_of_eq {n : Nat} {b : UInt8} (h : n = b.toNat) : UInt8.ofNat n = b := by
  rw [h, UInt8.ofNat_toNat]

theorem decodeGroups_last {w x y z : UInt8} {start pads : Nat} {symbols : List Nat}
    (read : lastGroup start [] 0 [w, x, y, z] = .ok (symbols, pads)) :
    decodeGroups start [w, x, y, z] = finish start symbols pads
      ((([w, x, y, z] : Bytes).drop (symbols.length - 1)).headD 0).toNat := by
  simp only [decodeGroups, read]
  rfl

theorem decodeGroups_encodeSymbols (bytes : Bytes) (start : Nat) :
    decodeGroups start (encodeSymbols bytes) = .ok bytes := by
  induction bytes using encodeSymbols.induct generalizing start with
  | case1 => rfl
  | case2 a =>
    have := a.toNat_lt
    have read : lastGroup start [] 0
        [symbolOf (a.toNat / 4), symbolOf (a.toNat % 4 * 16), pad, pad] =
          .ok ([a.toNat / 4, a.toNat % 4 * 16], 2) := by
      rw [lastGroup_symbol (by omega), lastGroup_symbol (by omega), lastGroup_pad (by simp),
        lastGroup_pad (by simp)]
      rfl
    rw [encodeSymbols, decodeGroups_last read]
    have fits : a.toNat % 4 * 16 % 16 = 0 := by omega
    simp only [finish, fits, ne_eq, not_true, if_false]
    rw [byte_of_eq (b := a) (by omega)]
  | case3 a b =>
    have := a.toNat_lt
    have := b.toNat_lt
    have read : lastGroup start [] 0
        [symbolOf (a.toNat / 4), symbolOf (a.toNat % 4 * 16 + b.toNat / 16),
          symbolOf (b.toNat % 16 * 4), pad] =
          .ok ([a.toNat / 4, a.toNat % 4 * 16 + b.toNat / 16, b.toNat % 16 * 4], 1) := by
      rw [lastGroup_symbol (by omega), lastGroup_symbol (by omega), lastGroup_symbol (by omega),
        lastGroup_pad (by simp)]
      rfl
    rw [encodeSymbols, decodeGroups_last read]
    have fits : b.toNat % 16 * 4 % 4 = 0 := by omega
    simp only [finish, fits, ne_eq, not_true, if_false]
    rw [byte_of_eq (b := a) (by omega), byte_of_eq (b := b) (by omega)]
  | case4 a b c rest ih =>
    have := a.toNat_lt
    have := b.toNat_lt
    have := c.toNat_lt
    have first : UInt8.ofNat (a.toNat / 4 * 4 + (a.toNat % 4 * 16 + b.toNat / 16) / 16) = a :=
      byte_of_eq (by omega)
    have second : UInt8.ofNat ((a.toNat % 4 * 16 + b.toNat / 16) % 16 * 16 +
        (b.toNat % 16 * 4 + c.toNat / 64) / 4) = b :=
      byte_of_eq (by omega)
    have third : UInt8.ofNat ((b.toNat % 16 * 4 + c.toNat / 64) % 4 * 64 + c.toNat % 64) = c :=
      byte_of_eq (by omega)
    rw [encodeSymbols]
    cases tail : encodeSymbols rest with
    | nil =>
      have none : rest = [] := by
        have := ih 0
        rw [tail] at this
        cases this
        rfl
      have read : lastGroup start [] 0
          [symbolOf (a.toNat / 4), symbolOf (a.toNat % 4 * 16 + b.toNat / 16),
            symbolOf (b.toNat % 16 * 4 + c.toNat / 64), symbolOf (c.toNat % 64)] =
            .ok ([a.toNat / 4, a.toNat % 4 * 16 + b.toNat / 16,
              b.toNat % 16 * 4 + c.toNat / 64, c.toNat % 64], 0) := by
        rw [lastGroup_symbol (by omega), lastGroup_symbol (by omega),
          lastGroup_symbol (by omega), lastGroup_symbol (by omega)]
        rfl
      rw [decodeGroups_last read]
      simp only [finish]
      rw [first, second, third, none]
    | cons e more =>
      have tail' := ih (start + 4)
      rw [tail] at tail'
      rw [decodeGroups, valueAt_symbolOf (by omega), valueAt_symbolOf (by omega),
        valueAt_symbolOf (by omega), valueAt_symbolOf (by omega), tail']
      show Except.ok (_ :: _ :: _ :: rest) = Except.ok (a :: b :: c :: rest)
      rw [first, second, third]

theorem utf8_encode_ascii {bytes : Bytes} (h : ∀ b ∈ bytes, b.toNat < 128) :
    Utf8.encode (bytes.map fun b => Char.ofNat b.toNat) = bytes := by
  induction bytes with
  | nil => rfl
  | cons b bytes ih =>
    have low : b.toNat < 128 := h b List.mem_cons_self
    have value : (Char.ofNat b.toNat).val.toNat = b.toNat := by
      have valid : b.toNat.isValidChar := .inl (by omega)
      rw [Char.ofNat, dif_pos valid]
      rfl
    rw [List.map_cons, Utf8.encode, List.flatMap_cons, ← Utf8.encode,
      ih fun b' mem => h b' (List.mem_cons_of_mem b mem), String.utf8EncodeChar, value]
    simp only [Nat.le_of_lt_succ low, if_true, UInt8.ofNat_toNat, List.singleton_append]

theorem trimBlank_encode (bytes : Bytes) :
    trimBlank (encode bytes).toList = (encode bytes).toList := by
  refine (bares_trimBlank _).eq_self fun c mem => ?_
  rw [toList_encode] at mem
  obtain ⟨b, among, rfl⟩ := List.mem_map.mp mem
  exact (encodeSymbols_isSymbol bytes b among).plain.2

theorem utf8_encode (bytes : Bytes) : Utf8.encode (encode bytes).toList = encodeSymbols bytes := by
  rw [toList_encode]
  exact utf8_encode_ascii fun b mem => (encodeSymbols_isSymbol bytes b mem).plain.1

theorem decode_encode (bytes : Bytes) : decode (encode bytes) = .ok bytes := by
  rw [decode, trimBlank_encode, utf8_encode, decodeSymbols]
  split
  next none =>
    have := decodeGroups_encodeSymbols bytes 0
    rw [List.getLast?_eq_none_iff.mp none] at this
    cases this
    rfl
  next last _ =>
    have whole := encodeSymbols_length bytes
    rw [if_neg (by omega)]
    exact decodeGroups_encodeSymbols bytes 0

end Base64

theorem decodeBody_encode (bytes : Bytes) : decodeBody (Base64.encode bytes) = .ok bytes := by
  rw [decodeBody, Base64.decode_encode]

end ClassSwap
