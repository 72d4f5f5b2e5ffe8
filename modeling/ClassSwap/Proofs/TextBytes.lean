import ClassSwap.Utf8
import Mathlib.Tactic.Common

namespace ClassSwap

theorem byte_toNat_ofNat {n : Nat} (h : n < 256) : (UInt8.ofNat n).toNat = n := by
  rw [UInt8.toNat_ofNat']
  exact Nat.mod_eq_of_lt h

namespace Utf8

theorem encode_cons (c : Char) (text : List Char) :
    encode (c :: text) = String.utf8EncodeChar c ++ encode text := List.flatMap_cons

theorem encode_append (front back : List Char) :
    encode (front ++ back) = encode front ++ encode back := List.flatMap_append

theorem isTail_ofNat {n : Nat} (low : 128 ≤ n) (high : n < 192) :
    isTail (UInt8.ofNat n) = true := by
  have value := byte_toNat_ofNat (n := n) (by omega)
  simp only [isTail, UInt8.le_iff_toNat_le, value, Bool.and_eq_true, decide_eq_true_eq]
  exact ⟨low, by change n ≤ 191; omega⟩

theorem payload_ofNat {n : Nat} (low : 128 ≤ n) (high : n < 192) :
    payload (UInt8.ofNat n) = n - 128 := by
  rw [payload, byte_toNat_ofNat (by omega)]
  omega

theorem byte_lt {n m : Nat} (hn : n < 256) (hm : m < 256) :
    UInt8.ofNat n < UInt8.ofNat m ↔ n < m := by
  rw [UInt8.lt_iff_toNat_lt, byte_toNat_ofNat hn, byte_toNat_ofNat hm]

theorem byte_le {n m : Nat} (hn : n < 256) (hm : m < 256) :
    UInt8.ofNat n ≤ UInt8.ofNat m ↔ n ≤ m := by
  rw [UInt8.le_iff_toNat_le, byte_toNat_ofNat hn, byte_toNat_ofNat hm]

theorem leadChar?_two {a b : Nat} (low : 0xC2 ≤ a) (high : a ≤ 0xDF) (hb : 128 ≤ b)
    (hb' : b < 192) (rest : Bytes) :
    leadChar? (UInt8.ofNat a) (UInt8.ofNat b :: rest) =
      some (Char.ofNat (a % 32 * 64 + (b - 128)), 1) := by
  have one : ¬ UInt8.ofNat a < 0x80 := by
    rw [show (0x80 : UInt8) = UInt8.ofNat 128 from rfl, byte_lt (by omega) (by omega)]
    omega
  have two : 0xC2 ≤ UInt8.ofNat a ∧ UInt8.ofNat a ≤ 0xDF :=
    ⟨(byte_le (n := 0xC2) (by omega) (by omega)).mpr low,
      (byte_le (m := 0xDF) (by omega) (by omega)).mpr high⟩
  simp [leadChar?, one, two, isTail_ofNat hb hb', payload_ofNat hb hb',
    byte_toNat_ofNat (n := a) (by omega)]

theorem leadChar?_three {a b c n : Nat} (low : 0xE0 ≤ a) (high : a ≤ 0xEF) (hb : 128 ≤ b)
    (hb' : b < 192) (hc : 128 ≤ c) (hc' : c < 192)
    (value : a % 16 * 4096 + (b - 128) * 64 + (c - 128) = n) (wide : 0x800 ≤ n)
    (valid : n < 0xD800 ∨ 0xDFFF < n) (rest : Bytes) :
    leadChar? (UInt8.ofNat a) (UInt8.ofNat b :: UInt8.ofNat c :: rest) =
      some (Char.ofNat n, 2) := by
  have one : ¬ UInt8.ofNat a < 0x80 := by
    rw [show (0x80 : UInt8) = UInt8.ofNat 128 from rfl, byte_lt (by omega) (by omega)]
    omega
  have two : ¬ UInt8.ofNat a ≤ 0xDF := by
    rw [show (0xDF : UInt8) = UInt8.ofNat 0xDF from rfl, byte_le (by omega) (by omega)]
    omega
  have three : 0xE0 ≤ UInt8.ofNat a ∧ UInt8.ofNat a ≤ 0xEF :=
    ⟨(byte_le (n := 0xE0) (by omega) (by omega)).mpr low,
      (byte_le (m := 0xEF) (by omega) (by omega)).mpr high⟩
  simp [leadChar?, one, two, three, isTail_ofNat hb hb', payload_ofNat hb hb',
    isTail_ofNat hc hc', payload_ofNat hc hc', byte_toNat_ofNat (n := a) (by omega), value, wide]
  omega

theorem leadChar?_four {a b c d n : Nat} (low : 0xF0 ≤ a) (high : a ≤ 0xF4) (hb : 128 ≤ b)
    (hb' : b < 192) (hc : 128 ≤ c) (hc' : c < 192) (hd : 128 ≤ d) (hd' : d < 192)
    (value : a % 8 * 262144 + (b - 128) * 4096 + (c - 128) * 64 + (d - 128) = n)
    (wide : 0x10000 ≤ n) (valid : n ≤ 0x10FFFF) (rest : Bytes) :
    leadChar? (UInt8.ofNat a) (UInt8.ofNat b :: UInt8.ofNat c :: UInt8.ofNat d :: rest) =
      some (Char.ofNat n, 3) := by
  have one : ¬ UInt8.ofNat a < 0x80 := by
    rw [show (0x80 : UInt8) = UInt8.ofNat 128 from rfl, byte_lt (by omega) (by omega)]
    omega
  have two : ¬ UInt8.ofNat a ≤ 0xDF := by
    rw [show (0xDF : UInt8) = UInt8.ofNat 0xDF from rfl, byte_le (by omega) (by omega)]
    omega
  have three : ¬ UInt8.ofNat a ≤ 0xEF := by
    rw [show (0xEF : UInt8) = UInt8.ofNat 0xEF from rfl, byte_le (by omega) (by omega)]
    omega
  have four : 0xF0 ≤ UInt8.ofNat a ∧ UInt8.ofNat a ≤ 0xF4 :=
    ⟨(byte_le (n := 0xF0) (by omega) (by omega)).mpr low,
      (byte_le (m := 0xF4) (by omega) (by omega)).mpr high⟩
  simp [leadChar?, one, two, three, four, isTail_ofNat hb hb', payload_ofNat hb hb',
    isTail_ofNat hc hc', payload_ofNat hc hc', isTail_ofNat hd hd', payload_ofNat hd hd',
    byte_toNat_ofNat (n := a) (by omega), value, wide, valid]

/-- The first byte of a character and those after it tell the character again. -/
theorem leadChar?_encodeChar (c : Char) (rest : Bytes) :
    ∃ lead tail, String.utf8EncodeChar c = lead :: tail ∧
      leadChar? lead (tail ++ rest) = some (c, tail.length) := by
  have valid : c.toNat < 0xD800 ∨ 0xDFFF < c.toNat ∧ c.toNat < 0x110000 := c.valid
  have known : Char.ofNat c.toNat = c := Char.ofNat_toNat c
  unfold String.utf8EncodeChar
  rw [show c.val.toNat = c.toNat from rfl]
  generalize c.toNat = v at *
  subst known
  by_cases one : v ≤ 0x7f
  · have lead := byte_toNat_ofNat (n := v) (by omega)
    refine ⟨_, _, if_pos one, ?_⟩
    have low : UInt8.ofNat v < 0x80 := by
      rw [UInt8.lt_iff_toNat_lt, lead]
      change v < 128
      omega
    simp [leadChar?, low, lead]
  · by_cases two : v ≤ 0x7ff
    · refine ⟨_, _, (if_neg one).trans (if_pos two), ?_⟩
      have read := leadChar?_two (a := v / 64 % 32 + 0xC0) (b := v % 64 + 0x80) (by omega)
        (by omega) (by omega) (by omega) rest
      rw [show (v / 64 % 32 + 0xC0) % 32 * 64 + (v % 64 + 0x80 - 128) = v by omega] at read
      exact read
    · by_cases three : v ≤ 0xffff
      · refine ⟨_, _, ((if_neg one).trans (if_neg two)).trans (if_pos three), ?_⟩
        exact leadChar?_three (by omega) (by omega) (by omega) (by omega) (by omega) (by omega)
          (by omega) (by omega) (by omega) rest
      · refine ⟨_, _, ((if_neg one).trans (if_neg two)).trans (if_neg three), ?_⟩
        exact leadChar?_four (by omega) (by omega) (by omega) (by omega) (by omega) (by omega)
          (by omega) (by omega) (by omega) (by omega) (by omega) rest

theorem glyphs_encode (text : List Char) : glyphs (encode text) = text.map some := by
  induction text with
  | nil => rw [encode, List.flatMap_nil, glyphs, List.map_nil]
  | cons c text ih =>
    obtain ⟨lead, tail, bytes, read⟩ := leadChar?_encodeChar c (encode text)
    rw [encode_cons, bytes, List.cons_append, glyphs, read]
    simp only [List.drop_left, List.map_cons, ih]

theorem lossy_encode (text : List Char) : lossy (encode text) = text := by
  induction text with
  | nil => rw [encode, List.flatMap_nil, lossy]
  | cons c text ih =>
    obtain ⟨lead, tail, bytes, read⟩ := leadChar?_encodeChar c (encode text)
    rw [encode_cons, bytes, List.cons_append, lossy, read]
    simp only [List.drop_left, ih]

theorem length_le_encode (text : List Char) : text.length ≤ (encode text).length := by
  induction text with
  | nil => exact Nat.le_refl _
  | cons c text ih =>
    have size := c.utf8Size_pos
    rw [encode_cons, List.length_append, String.length_utf8EncodeChar, List.length_cons]
    omega

theorem encode_injective {text other : List Char} (same : encode text = encode other) :
    text = other := by
  have read : text.map some = other.map some := by rw [← glyphs_encode, same, glyphs_encode]
  exact (List.map_inj_right fun _ _ => Option.some.inj).mp read

theorem utf8EncodeChar_ofNat {n : Nat} (valid : n.isValidChar) :
    String.utf8EncodeChar (Char.ofNat n) =
      if n ≤ 0x7f then [UInt8.ofNat n]
      else if n ≤ 0x7ff then [UInt8.ofNat (n / 64 % 32 + 0xC0), UInt8.ofNat (n % 64 + 0x80)]
      else if n ≤ 0xffff then
        [UInt8.ofNat (n / 4096 % 16 + 0xE0), UInt8.ofNat (n / 64 % 64 + 0x80),
          UInt8.ofNat (n % 64 + 0x80)]
      else
        [UInt8.ofNat (n / 262144 % 8 + 0xF0), UInt8.ofNat (n / 4096 % 64 + 0x80),
          UInt8.ofNat (n / 64 % 64 + 0x80), UInt8.ofNat (n % 64 + 0x80)] := by
  have value : (Char.ofNat n).val.toNat = n := by
    rw [Char.ofNat, dif_pos valid]
    rfl
  rw [String.utf8EncodeChar, value]

section Sequences

variable {lead b c d : UInt8} {n : Nat}

theorem ofNat_eq (same : n = b.toNat) : UInt8.ofNat n = b := by
  rw [same, UInt8.ofNat_toNat]

theorem byte_between {low high : Nat} (hl : low < 256) (hh : high < 256)
    (h : (decide (UInt8.ofNat low ≤ b) && decide (b ≤ UInt8.ofNat high)) = true) :
    low ≤ b.toNat ∧ b.toNat ≤ high := by
  simpa only [UInt8.le_iff_toNat_le, byte_toNat_ofNat hl, byte_toNat_ofNat hh, Bool.and_eq_true,
    decide_eq_true_eq] using h

theorem tail_bounds (tail : isTail b = true) :
    128 ≤ b.toNat ∧ b.toNat < 192 ∧ payload b = b.toNat - 128 := by
  obtain ⟨low, high⟩ := byte_between (show 0x80 < 256 by omega) (show 0xBF < 256 by omega) tail
  rw [payload]
  omega

theorem encodeChar_two (low : 0xC2 ≤ lead.toNat) (high : lead.toNat ≤ 0xDF)
    (hb : isTail b = true) :
    String.utf8EncodeChar (Char.ofNat (lead.toNat % 32 * 64 + payload b)) = [lead, b] := by
  obtain ⟨lowB, highB, ownB⟩ := tail_bounds hb
  rw [ownB, utf8EncodeChar_ofNat (.inl (by omega)), if_neg (by omega), if_pos (by omega),
    ofNat_eq (b := lead) (by omega), ofNat_eq (b := b) (by omega)]

theorem encodeChar_three (low : 0xE0 ≤ lead.toNat) (high : lead.toNat ≤ 0xEF)
    (hb : isTail b = true) (hc : isTail c = true)
    (value : n = lead.toNat % 16 * 4096 + payload b * 64 + payload c) (wide : 0x800 ≤ n)
    (valid : n < 0xD800 ∨ 0xDFFF < n) :
    String.utf8EncodeChar (Char.ofNat n) = [lead, b, c] := by
  obtain ⟨lowB, highB, ownB⟩ := tail_bounds hb
  obtain ⟨lowC, highC, ownC⟩ := tail_bounds hc
  rw [ownB, ownC] at value
  have known : n.isValidChar := by
    unfold Nat.isValidChar
    omega
  rw [utf8EncodeChar_ofNat known, if_neg (by omega), if_neg (by omega), if_pos (by omega),
    ofNat_eq (b := lead) (by omega), ofNat_eq (b := b) (by omega), ofNat_eq (b := c) (by omega)]

theorem encodeChar_four (low : 0xF0 ≤ lead.toNat) (high : lead.toNat ≤ 0xF4)
    (hb : isTail b = true) (hc : isTail c = true) (hd : isTail d = true)
    (value : n = lead.toNat % 8 * 262144 + payload b * 4096 + payload c * 64 + payload d)
    (wide : 0x10000 ≤ n) (valid : n ≤ 0x10FFFF) :
    String.utf8EncodeChar (Char.ofNat n) = [lead, b, c, d] := by
  obtain ⟨lowB, highB, ownB⟩ := tail_bounds hb
  obtain ⟨lowC, highC, ownC⟩ := tail_bounds hc
  obtain ⟨lowD, highD, ownD⟩ := tail_bounds hd
  rw [ownB, ownC, ownD] at value
  have known : n.isValidChar := by
    unfold Nat.isValidChar
    omega
  rw [utf8EncodeChar_ofNat known, if_neg (by omega), if_neg (by omega), if_neg (by omega),
    ofNat_eq (b := lead) (by omega), ofNat_eq (b := b) (by omega), ofNat_eq (b := c) (by omega),
    ofNat_eq (b := d) (by omega)]

end Sequences

theorem encodeChar_of_leadChar? {lead : UInt8} {rest : Bytes} {c : Char} {k : Nat}
    (h : leadChar? lead rest = some (c, k)) :
    String.utf8EncodeChar c = lead :: rest.take k := by
  unfold leadChar? at h
  split at h
  next one =>
    have low : lead.toNat < 128 := UInt8.lt_iff_toNat_lt.mp one
    cases h
    rw [utf8EncodeChar_ofNat (.inl (by omega)), if_pos (by omega), UInt8.ofNat_toNat,
      List.take_zero]
  split at h
  next two =>
    obtain ⟨low, high⟩ := byte_between (show 0xC2 < 256 by omega) (show 0xDF < 256 by omega) two
    split at h
    next b rest =>
      split at h
      next tail =>
        cases h
        exact encodeChar_two low high tail
      next => cases h
    next => cases h
  split at h
  next three =>
    obtain ⟨low, high⟩ := byte_between (show 0xE0 < 256 by omega) (show 0xEF < 256 by omega)
      three
    split at h
    next b c rest =>
      dsimp only at h
      split at h
      next sound =>
        simp only [Bool.and_eq_true, decide_eq_true_eq, Bool.not_eq_true', Bool.and_eq_false_iff,
          decide_eq_false_iff_not] at sound
        obtain ⟨⟨⟨hb, hc⟩, wide⟩, valid⟩ := sound
        cases h
        exact encodeChar_three low high hb hc rfl wide (by omega)
      next => cases h
    next => cases h
  split at h
  next four =>
    obtain ⟨low, high⟩ := byte_between (show 0xF0 < 256 by omega) (show 0xF4 < 256 by omega)
      four
    split at h
    next b c d rest =>
      dsimp only at h
      split at h
      next sound =>
        simp only [Bool.and_eq_true, decide_eq_true_eq] at sound
        obtain ⟨⟨⟨⟨hb, hc⟩, hd⟩, wide⟩, valid⟩ := sound
        cases h
        exact encodeChar_four low high hb hc hd rfl wide valid
      next => cases h
    next => cases h
  cases h

theorem eq_encode_of_glyphs {bytes : Bytes} {text : List Char}
    (h : glyphs bytes = text.map some) : bytes = encode text := by
  induction bytes using glyphs.induct generalizing text with
  | case1 =>
    rw [glyphs, eq_comm, List.map_eq_nil_iff] at h
    rw [h]
    rfl
  | case2 lead rest c k read ih =>
    rw [glyphs, read] at h
    cases text with
    | nil => cases h
    | cons first text =>
      rw [List.map_cons, List.cons.injEq, Option.some.injEq] at h
      obtain ⟨rfl, later⟩ := h
      rw [encode_cons, ← ih later, encodeChar_of_leadChar? read,
        List.cons_append, List.take_append_drop]
  | case3 lead rest stray ih =>
    rw [glyphs, stray] at h
    cases text <;> cases h

theorem mapM_id_eq_some {α : Type} {list : List (Option α)} {all : List α} :
    list.mapM id = some all ↔ list = all.map some := by
  induction list generalizing all with
  | nil => cases all <;> simp
  | cons x rest ih =>
    cases x with
    | none => cases all <;> simp
    | some x =>
      have step : (some x :: rest).mapM id = some all ↔
          ∃ later, rest.mapM id = some later ∧ x :: later = all := by
        simp [Option.bind_eq_some_iff]
      rw [step]
      constructor
      · rintro ⟨later, read, rfl⟩
        rw [ih.mp read, List.map_cons]
      · intro eq
        obtain ⟨first, later, rfl, own, behind⟩ := List.map_eq_cons_iff.mp eq.symm
        exact ⟨later, ih.mpr behind.symm, by rw [Option.some.inj own]⟩

/-- The bytes of a text are read as this text, and nothing else is read as text. -/
theorem toString?_eq_some_iff {bytes : Bytes} {text : String} :
    toString? bytes = some text ↔ bytes = ofString text := by
  rw [toString?, decode?, Option.map_eq_some_iff]
  constructor
  · rintro ⟨chars, read, rfl⟩
    rw [ofString, String.toList_ofList]
    exact eq_encode_of_glyphs (mapM_id_eq_some.mp read)
  · rintro rfl
    exact ⟨text.toList, mapM_id_eq_some.mpr (glyphs_encode text.toList), String.ofList_toList⟩

end Utf8

end ClassSwap
