import ClassSwap.Wire.Frame
import ClassSwap.Proofs.TextBytes

namespace ClassSwap

theorem toNat_ofWord32 {n : Nat} (h : n < 4294967296) : Bytes.toNat (Bytes.ofWord32 n) = n := by
  simp only [Bytes.toNat, Bytes.ofWord32, List.foldl_cons, List.foldl_nil, UInt8.toNat_ofNat']
  omega

namespace Frame

theorem ofPayload_eq_ok_iff {payload frame : Bytes} :
    ofPayload payload = .ok frame ↔
      payload.length ≤ maxPayload ∧ frame = Bytes.ofWord32 payload.length ++ payload := by
  unfold ofPayload
  split
  next large =>
    simp only [reduceCtorEq, false_iff, not_and]
    intro small
    omega
  next small => simp [Nat.not_lt.mp small, eq_comm]

theorem front_ofPayload {payload frame : Bytes} (made : ofPayload payload = .ok frame)
    (rest : Bytes) : front (frame ++ rest) = .frame payload rest := by
  obtain ⟨small, rfl⟩ := ofPayload_eq_ok_iff.mp made
  have header : (Bytes.ofWord32 payload.length).length = headerSize := rfl
  have count : announced (Bytes.ofWord32 payload.length ++ payload ++ rest) = payload.length := by
    rw [announced, List.append_assoc, List.take_left' header, toNat_ofWord32]
    simp only [maxPayload] at small
    omega
  have behind : (Bytes.ofWord32 payload.length ++ payload ++ rest).drop headerSize =
      payload ++ rest := by
    rw [List.append_assoc, List.drop_left' header]
  unfold front
  rw [count, behind, if_neg (by simp [header]), if_neg (Nat.not_lt.mpr small), if_neg (by simp),
    List.take_left, List.drop_left]

end Frame

end ClassSwap
