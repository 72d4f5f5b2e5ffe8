import ClassSwap.Proofs.LaneCalls

namespace ClassSwap

namespace Channel

variable {patience : Duration} {t u : Target} {events : History}

theorem run_nextId (c : Channel) (events : History) :
    (c.run events).nextId = c.nextId + UInt64.ofNat (c.issued events) := by
  induction events generalizing c with
  | nil => simp [run, issued]
  | cons e events ih =>
    rw [show c.run (e :: events) = (c.step e.1 e.2).run events from rfl, ih, issued,
      UInt64.ofNat_add, ← UInt64.add_assoc]
    congr 1
    simp only [step]
    split <;> simp

theorem issued_take_le (c : Channel) (events : History) {i j : Nat} (h : i ≤ j) :
    c.issued (events.take i) ≤ c.issued (events.take j) := by
  have split : events.take j = events.take i ++ (events.take j).drop i := by
    have := List.take_append_drop i (events.take j)
    rw [List.take_take, Nat.min_eq_left h] at this
    exact this.symm
  rw [split, issued_append]
  omega

theorem issued_take_lt {place later : Nat} (granted : events[place]? = some (t, .grant))
    (takes : ((after patience (events.take place)).lane t).takesNumber = true)
    (h : place < later) :
    (fresh patience).issued (events.take place) < (fresh patience).issued (events.take later) := by
  have next : (fresh patience).issued (events.take (place + 1)) =
      (fresh patience).issued (events.take place) + 1 := by
    rw [List.take_add_one, granted, issued_append]
    simp [issued, takes]
  have := issued_take_le (fresh patience) events (i := place + 1) (j := later) h
  omega

/-- Two calls that took the same number are the same. -/
theorem number_unique (few : (fresh patience).issued events < UInt64.size) {k l : Nat}
    {id : RequestId}
    (first : Granted patience t events k fun c => (c.lane t).takesNumber = true ∧ c.nextId = id)
    (other : Granted patience u events l fun c => (c.lane u).takesNumber = true ∧ c.nextId = id) :
    t = u ∧ k = l := by
  obtain ⟨i, granted, turn, takes, number⟩ := first
  obtain ⟨j, granted', turn', takes', number'⟩ := other
  have bound : i < events.length := (List.getElem?_eq_some_iff.mp granted).1
  have bound' : j < events.length := (List.getElem?_eq_some_iff.mp granted').1
  have total : (fresh patience).issued (events.take events.length) < UInt64.size := by
    rwa [List.take_length]
  have low := issued_take_lt granted takes bound
  have low' := issued_take_lt granted' takes' bound'
  have same : (fresh patience).issued (events.take i) =
        (fresh patience).issued (events.take j) := by
    have eq := number.trans number'.symm
    rw [run_nextId, run_nextId] at eq
    have eq := congrArg UInt64.toNat ((UInt64.add_right_inj _).mp eq)
    rw [UInt64.toNat_ofNat_of_lt' (by omega), UInt64.toNat_ofNat_of_lt' (by omega)] at eq
    exact eq
  have place : i = j := by
    rcases Nat.lt_trichotomy i j with h | h | h
    · have := issued_take_lt granted takes h
      omega
    · exact h
    · have := issued_take_lt granted' takes' h
      omega
  subst place
  cases granted.symm.trans granted'
  cases turn.symm.trans turn'
  exact ⟨rfl, rfl⟩

end Channel

end ClassSwap
