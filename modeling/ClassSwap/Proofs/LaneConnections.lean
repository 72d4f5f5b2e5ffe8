import ClassSwap.Proofs.LaneCalls

namespace ClassSwap

open Channel

/-- The connection of an attempt, once it has one. -/
def Stage.connection? : Stage → Option Nat
  | .entering n | .registering n | .writing n | .waiting n => some n
  | .choosing | .dialing => none

namespace Lane

/-- A lane uses the connection in its slot and no other. -/
structure Wired (lane : Lane) : Prop where
  sent : ∀ tx ∈ lane.sent, tx.connection < lane.connections.length
  slot : ∀ n, lane.slot = some n → n < lane.connections.length
  stage : ∀ x n, lane.exchange = some x → x.stage.connection? = some n → lane.slot = some n

variable {target : Target} {patience : Duration} {id : RequestId} {lane lane' : Lane}
  {x y : Exchange} {e : LaneEvent} {connections : List Connection}

@[simp] theorem closing_length (slot : Option Nat) (connections : List Connection) :
    (closing slot connections).length = connections.length := by
  cases slot <;> simp [closing]

@[simp] theorem withdrawn_length (n : Nat) (id : RequestId) (connections : List Connection) :
    (withdrawn n id connections).length = connections.length := by
  simp [withdrawn]

theorem Snag.length {error : ChannelError} {sent : Bool}
    (snag : Snag patience lane x e error sent connections) :
    connections.length = lane.connections.length := by
  cases snag <;> simp

theorem Handing.length {n : Nat} {ids : List RequestId} {mail : Except ChannelError Response}
    (handing : Handing lane e n ids mail connections) :
    connections.length = lane.connections.length := by
  cases handing <;> simp

theorem Move.connections_length (move : Move target patience id lane e lane') :
    lane.connections.length ≤ lane'.connections.length := by
  cases move with
  | unheard _ _ _ _ _ _ _ snag | repeated _ _ _ _ _ _ _ snag => simp [snag.length]
  | failed e x error sent connections log held snag =>
    cases error.isLoss <;> simp [snag.length]
  | handed _ _ _ _ _ _ handing => simp [handing.length]
  | _ => simp

theorem usable_isOpen {n : Nat} (h : lane.usable? = some n) :
    lane.slot = some n ∧ lane.isOpen n = true :=
  Option.filter_eq_some_iff.mp h

/-- The slot after a move: it keeps its connection, has lost it, or has got a new one. -/
theorem Move.slot (move : Move target patience id lane e lane') {n : Nat}
    (slot : lane'.slot = some n) :
    lane.slot = some n ∨ e = .dialed .connected ∧ n = lane.connections.length ∧
      lane'.connections.length = n + 1 := by
  cases move with
  | connected x log held stage =>
    cases slot
    exact .inr ⟨rfl, rfl, by simp⟩
  | failed e x error sent connections log held snag =>
    cases loss : error.isLoss with
    | true => simp [loss] at slot
    | false => exact .inl (by simpa [loss] using slot)
  | attached | left | unheard | repeated | halted => cases slot
  | _ => exact .inl slot

/-- The call that holds the lane after a move has no connection other than the one in the slot. -/
theorem Move.stage (move : Move target patience id lane e lane') {n : Nat}
    (wired : ∀ x n, lane.exchange = some x → x.stage.connection? = some n → lane.slot = some n)
    (held : lane'.exchange = some y) (connection : y.stage.connection? = some n) :
    lane'.slot = some n := by
  cases move with
  | started | repeated => cases held; cases connection
  | connected x log _ stage =>
    cases held
    exact connection
  | staged e x stage holds next =>
    cases held
    cases next with
    | keep m choosing usable =>
      cases connection
      exact (usable_isOpen usable).1
    | dial => cases connection
    | pass m entering usable => exact wired x n holds (by rw [entering]; exact connection)
    | unanswered | early | linked => exact wired x n holds connection
  | registered x m holds stage =>
    cases held
    exact wired x n holds (by rw [stage]; exact connection)
  | transmitted x m frame holds stage whole =>
    cases held
    exact wired x n holds (by rw [stage]; exact connection)
  | handed e m ids mail connections log handing =>
    obtain ⟨x, hx, _, stage, _⟩ := exchange_of_posted held
    exact wired x n hx (stage ▸ connection)
  | abandoned ticket => exact wired y n (Option.eq_some_of_filter_eq_some held) connection
  | idle | refused | queued | ended => exact wired y n held connection
  | _ => cases held

theorem Move.wired (move : Move target patience id lane e lane') (h : Wired lane) :
    Wired lane' := by
  have grow := move.connections_length
  constructor
  case sent =>
    intro tx htx
    rcases move.sent with eq | ⟨x, n, frame, held, stage, _, eq, _⟩
    · exact Nat.lt_of_lt_of_le (h.sent tx (eq ▸ htx)) grow
    · rw [eq] at htx
      rcases List.mem_append.mp htx with htx | htx
      · exact Nat.lt_of_lt_of_le (h.sent tx htx) grow
      · rw [List.mem_singleton.mp htx]
        have slot := h.stage x n held (by rw [stage]; rfl)
        exact Nat.lt_of_lt_of_le (h.slot n slot) grow
  case slot =>
    intro n slot
    rcases move.slot slot with kept | ⟨_, rfl, count⟩
    · exact Nat.lt_of_lt_of_le (h.slot n kept) grow
    · omega
  case stage =>
    intro y n held connection
    exact move.stage h.stage held connection

structure Behind (lane : Lane) (k n : Nat) : Prop where
  known : n < lane.connections.length
  past : lane.Past k
  apart : ∀ x, lane.exchange = some x → x.ticket = k →
    x.stage.connection? ≠ some n ∧ (x.stage = .choosing → lane.slot = none)

theorem Move.behind (move : Move target patience id lane e lane') {k n : Nat}
    (h : Behind lane k n) : Behind lane' k n := by
  constructor
  case known => exact Nat.lt_of_lt_of_le h.known move.connections_length
  case past => exact move.past h.past
  case apart =>
    intro y held own
    cases move with
    | idle | refused | queued | ended => exact h.apart y held own
    | abandoned ticket => exact h.apart y (Option.eq_some_of_filter_eq_some held) own
    | handed e m ids mail connections log handing =>
      obtain ⟨x, hx, same, stage, _⟩ := exchange_of_posted held
      rw [stage]
      exact h.apart x hx (same.ticket ▸ own)
    | started ticket command timeout endpoint rest log free first =>
      cases held
      have later := h.past.2.2 (ticket, .send command timeout) (by simp [first])
      simp only at own later
      omega
    | repeated =>
      cases held
      refine ⟨fun on => ?_, fun _ => rfl⟩
      cases on
    | connected x log holds =>
      cases held
      refine ⟨?_, nofun⟩
      rintro ⟨⟩
      exact Nat.lt_irrefl _ h.known
    | staged e x stage holds next =>
      cases held
      obtain ⟨apart, vacant⟩ := h.apart x holds own
      cases next with
      | keep m choosing usable =>
        have slot := vacant choosing
        rw [(usable_isOpen usable).1] at slot
        cases slot
      | dial => exact ⟨nofun, nofun⟩
      | pass m entering =>
        rw [entering] at apart
        exact ⟨apart, nofun⟩
      | unanswered | early | linked => exact ⟨apart, vacant⟩
    | registered x m holds stage | transmitted x m _ holds stage =>
      cases held
      have apart := (h.apart x holds own).1
      rw [stage] at apart
      exact ⟨apart, nofun⟩
    | _ => cases held

end Lane

namespace Channel

theorem wired (patience : Duration) (t : Target) (events : History) :
    ((after patience events).lane t).Wired := by
  refine lane_induction (P := fun _ lane => lane.Wired) ?_ ?_ ?_ events
  · constructor <;> simp
  · exact fun _ _ _ h => h
  · exact fun _ _ _ h move _ => move.wired h

end Channel

end ClassSwap
