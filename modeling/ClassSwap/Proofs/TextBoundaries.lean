import ClassSwap.Proofs.TextBytes

namespace ClassSwap.Utf8

variable {text front : List Char} {bytes : Bytes} {place limit n : Nat}

theorem size_eq (text : List Char) : size text = (encode text).length := by
  have counted (text : List Char) (n : Nat) :
      text.foldl (fun n c => n + c.utf8Size) n = n + (encode text).length := by
    induction text generalizing n with
    | nil => rfl
    | cons c text ih =>
      rw [List.foldl_cons, ih, encode_cons, List.length_append, String.length_utf8EncodeChar,
        Nat.add_assoc]
  rw [size, counted, Nat.zero_add]

theorem size_cons (c : Char) (text : List Char) : size (c :: text) = c.utf8Size + size text := by
  rw [size_eq, size_eq, encode_cons, List.length_append, String.length_utf8EncodeChar]

theorem size_eq_zero_iff : size text = 0 ↔ text = [] := by
  cases text with
  | nil => exact iff_of_true rfl rfl
  | cons c text =>
    have width := c.utf8Size_pos
    rw [size_cons]
    exact iff_of_false (by omega) (List.cons_ne_nil c text)

theorem size_replicate (n : Nat) (c : Char) : size (List.replicate n c) = n * c.utf8Size := by
  induction n with
  | zero => rw [Nat.zero_mul]; rfl
  | succ n ih => rw [List.replicate_succ, size_cons, ih, Nat.succ_mul, Nat.add_comm]

theorem size_append (front back : List Char) : size (front ++ back) = size front + size back := by
  rw [size_eq, size_eq, size_eq, encode_append, List.length_append]

theorem size_mono (h : front <+: text) : size front ≤ size text := by
  obtain ⟨back, rfl⟩ := h
  rw [size_append]
  exact Nat.le_add_right _ _

theorem take_encode (h : front <+: text) : (encode text).take (size front) = encode front := by
  obtain ⟨back, rfl⟩ := h
  rw [encode_append, size_eq, List.take_left]

/-- Whether a character begins at a place among the bytes of a text, or the text ends there. -/
def isBoundary (bytes : Bytes) (place : Nat) : Bool :=
  match bytes[place]? with
  | some b => !isTail b
  | none => place == bytes.length

/-- The last such place up to a given one. The search goes back byte by byte and finds nothing if it
gets past the first one. -/
def lastBoundary? (bytes : Bytes) : Nat → Option Nat
  | 0 => if isBoundary bytes 0 then some 0 else none
  | place + 1 =>
    if isBoundary bytes (place + 1) then some (place + 1) else lastBoundary? bytes place

theorem lastBoundary?_eq_some_iff :
    lastBoundary? bytes limit = some place ↔ place ≤ limit ∧ isBoundary bytes place = true ∧
      ∀ later, place < later → later ≤ limit → isBoundary bytes later = false := by
  induction limit with
  | zero =>
    rw [lastBoundary?, Option.ite_none_right_eq_some, Option.some.injEq]
    constructor
    · rintro ⟨here, rfl⟩
      exact ⟨Nat.le_refl _, here, fun later past back => absurd past (Nat.not_lt.mpr back)⟩
    · rintro ⟨back, here, -⟩
      obtain rfl := Nat.le_zero.mp back
      exact ⟨here, rfl⟩
  | succ limit ih =>
    rw [lastBoundary?]
    split
    next here =>
      rw [Option.some.injEq]
      constructor
      · rintro rfl
        exact ⟨Nat.le_refl _, here, fun later past back => absurd past (Nat.not_lt.mpr back)⟩
      · rintro ⟨back, -, none⟩
        by_contra other
        rw [none (limit + 1) (by omega) (Nat.le_refl _)] at here
        cases here
    next inside =>
      rw [ih]
      constructor
      · rintro ⟨back, here, none⟩
        refine ⟨by omega, here, fun later past back => ?_⟩
        rcases Nat.lt_or_eq_of_le back with back | rfl
        · exact none later past (by omega)
        · exact Bool.not_eq_true _ ▸ inside
      · rintro ⟨back, here, none⟩
        have other : place ≠ limit + 1 := by
          rintro rfl
          exact inside here
        exact ⟨by omega, here, fun later past back => none later past (by omega)⟩

theorem isTail_of_lead (lead : n < 128 ∨ 192 ≤ n) (byte : n < 256) :
    isTail (UInt8.ofNat n) = false := by
  have value := byte_toNat_ofNat byte
  have low : (0x80 : UInt8).toNat = 128 := rfl
  have high : (0xBF : UInt8).toNat = 191 := rfl
  simp only [isTail, UInt8.le_iff_toNat_le, value, low, high, Bool.and_eq_false_iff,
    decide_eq_false_iff_not]
  omega

/-- Only the first byte of a character is one that a character can begin with. -/
theorem encodeChar_tails (c : Char) : ∃ lead tail, String.utf8EncodeChar c = lead :: tail ∧
    isTail lead = false ∧ ∀ b ∈ tail, isTail b = true := by
  have tail (n : Nat) : isTail (UInt8.ofNat (n % 64 + 128)) = true :=
    isTail_ofNat (by omega) (by omega)
  unfold String.utf8EncodeChar
  dsimp only
  split
  · exact ⟨_, _, rfl, isTail_of_lead (by omega) (by omega), nofun⟩
  split
  · exact ⟨_, _, rfl, isTail_of_lead (by omega) (by omega),
      List.forall_mem_singleton.mpr (tail _)⟩
  split
  · exact ⟨_, _, rfl, isTail_of_lead (by omega) (by omega),
      List.forall_mem_cons.mpr ⟨tail _, List.forall_mem_singleton.mpr (tail _)⟩⟩
  · exact ⟨_, _, rfl, isTail_of_lead (by omega) (by omega), List.forall_mem_cons.mpr
      ⟨tail _, List.forall_mem_cons.mpr ⟨tail _, List.forall_mem_singleton.mpr (tail _)⟩⟩⟩

theorem isBoundary_append (front : Bytes) (past : front.length ≤ place) :
    isBoundary (front ++ bytes) place = isBoundary bytes (place - front.length) := by
  rw [isBoundary, isBoundary, List.getElem?_append_right past]
  cases bytes[place - front.length]? with
  | some b => rfl
  | none =>
    rw [Bool.eq_iff_iff, beq_iff_eq, beq_iff_eq, List.length_append]
    omega

/-- The places between characters are those where some front of the text ends. -/
theorem isBoundary_iff :
    isBoundary (encode text) place = true ↔ ∃ front, front <+: text ∧ size front = place := by
  induction text generalizing place with
  | nil =>
    have ends : isBoundary (encode []) place = true ↔ place = 0 := beq_iff_eq
    rw [ends]
    simp [size, eq_comm]
  | cons c text ih =>
    obtain ⟨lead, tail, eq, start, inside⟩ := encodeChar_tails c
    have width : c.utf8Size = (lead :: tail).length := by rw [← eq, String.length_utf8EncodeChar]
    rw [encode_cons, eq]
    by_cases past : c.utf8Size ≤ place
    · rw [isBoundary_append _ (width ▸ past), ih, ← width]
      constructor
      · rintro ⟨front, below, at_⟩
        refine ⟨c :: front, List.cons_prefix_cons.mpr ⟨rfl, below⟩, ?_⟩
        rw [size_cons]
        omega
      · rintro ⟨front, below, rfl⟩
        rcases List.prefix_cons_iff.mp below with rfl | ⟨front, rfl, rest⟩
        · exact absurd past (Nat.not_le.mpr c.utf8Size_pos)
        · exact ⟨front, rest, by rw [size_cons, Nat.add_sub_cancel_left]⟩
    · cases place with
      | zero =>
        simp only [isBoundary, List.cons_append, List.getElem?_cons_zero, start, Bool.not_false,
          true_iff]
        exact ⟨[], List.nil_prefix, rfl⟩
      | succ place =>
        have short : place < tail.length := by
          rw [width, List.length_cons] at past
          omega
        have among : tail[place] ∈ tail := List.getElem_mem short
        simp only [isBoundary, List.cons_append, List.getElem?_cons_succ,
          List.getElem?_append_left short, List.getElem?_eq_getElem short, inside _ among,
          Bool.not_true, Bool.false_eq_true, false_iff]
        rintro ⟨front, below, at_⟩
        rcases List.prefix_cons_iff.mp below with rfl | ⟨front, rfl, -⟩
        · cases at_
        · rw [size_cons] at at_
          omega

end ClassSwap.Utf8
