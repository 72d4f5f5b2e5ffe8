import ClassSwap.Zip.Inflate

namespace ClassSwap

namespace Bytes

@[simp] theorem length_ofNatLE (count n : Nat) : (ofNatLE count n).length = count := by
  induction count generalizing n with
  | zero => rfl
  | succ count ih => rw [ofNatLE, List.length_cons, ih]

end Bytes

namespace Zip

namespace Bits

/-- Bits that are read in two parts are read at once. -/
theorem take?_add {s t u : Bits} {first second low high : Nat}
    (front : s.take? first = some (low, t)) (back : t.take? second = some (high, u)) :
    s.take? (first + second) = some (low + high <<< first, u) := by
  induction first generalizing s low with
  | zero =>
    cases front
    rw [Nat.zero_add, back, Nat.shiftLeft_zero, Nat.zero_add]
  | succ first ih =>
    rw [take?] at front
    obtain ⟨⟨bit, s'⟩, next, front⟩ := Option.bind_eq_some_iff.mp front
    obtain ⟨⟨low', t'⟩, front, eq⟩ := Option.bind_eq_some_iff.mp front
    cases eq
    rw [Nat.succ_add, take?, next]
    show ((take? s' (first + second)).bind fun p => some (bit + 2 * p.1, p.2)) = _
    rw [ih front]
    show some (bit + 2 * (low' + high <<< first), u) = _
    rw [Nat.mul_add, Nat.shiftLeft_succ, Nat.add_assoc]

theorem take?_byte (b : UInt8) (rest : Bytes) :
    take? (ofBytes (b :: rest)) 8 = some (b.toNat, ofBytes rest) := by
  have small := b.toNat_lt
  simp only [take?, next?, ofBytes, Nat.lt_irrefl, if_false, Nat.reduceLT, if_true,
    Option.bind_eq_bind, Option.bind_some, Nat.reduceSub, pure]
  congr 3 <;> omega

theorem take?_word {n : Nat} (small : n < 65536) (rest : Bytes) :
    take? (ofBytes (Bytes.ofNatLE 2 n ++ rest)) 16 = some (n, ofBytes rest) := by
  have low : (UInt8.ofNat n).toNat = n % 256 := UInt8.toNat_ofNat'
  have high : (UInt8.ofNat (n / 256)).toNat = n / 256 % 256 := UInt8.toNat_ofNat'
  have whole : n % 256 + (n / 256 % 256) <<< 8 = n := by omega
  have read := take?_add (take?_byte (UInt8.ofNat n) (UInt8.ofNat (n / 256) :: rest))
    (take?_byte (UInt8.ofNat (n / 256)) rest)
  rw [low, high, whole] at read
  exact read

end Bits

theorem readStored_block {bytes : Bytes} (fits : bytes.length ≤ maxStored) (out : Array UInt8)
    (held count : Nat) (rest : Bytes) :
    readStored out ⟨held, count, Bytes.ofNatLE 2 bytes.length
        ++ Bytes.ofNatLE 2 (maxStored - bytes.length) ++ bytes ++ rest⟩ =
      some (out ++ bytes.toArray, Bits.ofBytes rest) := by
  unfold maxStored at fits ⊢
  rw [readStored, Bits.align]
  simp only [List.append_assoc]
  have size := Bits.take?_word (show bytes.length < 65536 by omega)
    (Bytes.ofNatLE 2 (65535 - bytes.length) ++ (bytes ++ rest))
  have check := Bits.take?_word (show 65535 - bytes.length < 65536 by omega) (bytes ++ rest)
  unfold Bits.ofBytes at size check ⊢
  rw [size]
  simp only [Option.bind_eq_bind, Option.bind_some, check]
  rw [if_neg (by omega), if_neg (by simp)]
  simp

theorem readBlocks_storedBlock {bytes : Bytes} (fits : bytes.length ≤ maxStored) (last : Bool)
    (out : Array UInt8) (tries : Nat) (rest : Bytes) :
    readBlocks out (tries + 1) (Bits.ofBytes (storedBlock last bytes ++ rest)) =
      if last then some (out ++ bytes.toArray)
      else readBlocks (out ++ bytes.toArray) tries (Bits.ofBytes rest) := by
  have block := readStored_block fits out 0 5 rest
  have first (tail : Bytes) : (Bits.ofBytes ((if last then 1 else 0) :: tail)).take? 1 =
      some (if last then 1 else 0, ⟨0, 7, tail⟩) := by
    cases last <;> rfl
  have kind (tail : Bytes) : (Bits.mk 0 7 tail).take? 2 = some (0, ⟨0, 5, tail⟩) := by
    simp [Bits.take?, Bits.next?]
  simp only [readBlocks, storedBlock, List.cons_append, first, Option.bind_eq_bind,
    Option.bind_some, kind, readBlock, block]
  cases last <;> rfl

theorem readBlocks_deflate (bytes : Bytes) (out : Array UInt8) {tries : Nat}
    (enough : (deflate bytes).length ≤ tries) :
    readBlocks out tries (Bits.ofBytes (deflate bytes)) = some (out ++ bytes.toArray) := by
  induction bytes using deflate.induct generalizing out tries with
  | case1 bytes small =>
    rw [deflate, if_pos small] at enough ⊢
    obtain ⟨tries, rfl⟩ : ∃ k, tries = k + 1 :=
      ⟨tries - 1, by simp [storedBlock] at enough; omega⟩
    have read := readBlocks_storedBlock small true out tries []
    rw [List.append_nil] at read
    exact read
  | case2 bytes large ih =>
    rw [deflate, if_neg large] at enough ⊢
    obtain ⟨tries, rfl⟩ : ∃ k, tries = k + 1 :=
      ⟨tries - 1, by simp [storedBlock] at enough; omega⟩
    have full : (bytes.take maxStored).length ≤ maxStored := List.length_take_le _ _
    have fewer : (deflate (bytes.drop maxStored)).length ≤ tries := by
      simp [storedBlock] at enough
      omega
    have others := ih (out ++ (bytes.take maxStored).toArray) fewer
    have whole : out ++ (bytes.take maxStored).toArray ++ (bytes.drop maxStored).toArray =
        out ++ bytes.toArray := by
      simp [Array.append_assoc]
    rw [readBlocks_storedBlock full, if_neg Bool.false_ne_true, others, whole]

/-- What has been packed is unpacked to the same bytes. -/
theorem inflate_deflate (bytes : Bytes) : inflate? (deflate bytes) = some bytes := by
  have enough : (deflate bytes).length ≤ (Bits.ofBytes (deflate bytes)).size + 1 := by
    simp only [Bits.size, Bits.ofBytes]
    omega
  rw [inflate?, readBlocks_deflate bytes #[] enough]
  simp

end Zip

end ClassSwap
