import ClassSwap.Proofs.LaneConnections

namespace ClassSwap

open Channel

namespace Lane

/-- The whole frames that a call has handed to a socket. -/
def framesOf (lane : Lane) (ticket : Nat) : List Transmission :=
  lane.sent.filter (·.ticket = ticket)

theorem mem_framesOf {lane : Lane} {k : Nat} {tx : Transmission} :
    tx ∈ lane.framesOf k ↔ tx ∈ lane.sent ∧ tx.ticket = k := by
  simp [framesOf]

def lapsesOf (lane : Lane) (ticket : Nat) : List Lapse :=
  lane.lapses.filter (·.ticket = ticket)

def current (x : Exchange) : List Transmission :=
  match x.stage with
  | .waiting n => [⟨x.ticket, n, x.request⟩]
  | _ => []

/-- What a call has handed over in an attempt before the current one. -/
inductive Earlier (lane : Lane) (x : Exchange) : List Transmission → Prop
  | first (second : x.second = false) (lapses : lane.lapsesOf x.ticket = []) : Earlier lane x []
  | unsent (e : ChannelError) (second : x.second = true)
      (lapses : lane.lapsesOf x.ticket = [⟨x.ticket, e, false⟩]) : Earlier lane x []
  | sent (m : Nat) (e : ChannelError) (second : x.second = true)
      (lapses : lane.lapsesOf x.ticket = [⟨x.ticket, e, true⟩]) (loss : e.isLoss = true)
      (reused : x.reused = true) (harmless : x.request.command.isRepeatable = true)
      (apart : x.stage.connection? ≠ some m) (vacant : x.stage = .choosing → lane.slot = none) :
      Earlier lane x [⟨x.ticket, m, x.request⟩]

/-- The frames of the call that holds the lane are those of its attempts. -/
def Attempting (lane : Lane) (x : Exchange) : Prop :=
  ∃ earlier, Earlier lane x earlier ∧ lane.framesOf x.ticket = earlier ++ current x

variable {target : Target} {patience : Duration} {id : RequestId} {lane lane' : Lane}
  {x y : Exchange} {e : LaneEvent} {connections : List Connection}

/-- An attempt fails after its frame was handed to the socket exactly if it awaits the response. -/
theorem Snag.sent_eq {error : ChannelError} {sent : Bool}
    (snag : Snag patience lane x e error sent connections) :
    (sent = true ∧ ∃ n, x.stage = .waiting n ∧ current x = [⟨x.ticket, n, x.request⟩]) ∨
      (sent = false ∧ current x = []) := by
  cases snag with
  | told n _ _ stage | overdue n stage | lost n stage =>
    exact .inl ⟨rfl, n, stage, by rw [current, stage]⟩
  | refused stage | unreachable _ stage | slow stage | shut _ stage | oversized _ _ _ stage
  | unwritten _ _ stage => exact .inr ⟨rfl, by rw [current, stage]⟩

theorem mayRepeat_eq_true {error : ChannelError} {sent : Bool} (h : mayRepeat x error sent = true) :
    x.reused = true ∧ x.second = false ∧ error.isLoss = true ∧
      (sent = true → x.request.command.isRepeatable = true) := by
  simp only [mayRepeat, Bool.and_eq_true, Bool.not_eq_true', Bool.or_eq_true] at h
  obtain ⟨⟨⟨⟨reused, second⟩, _⟩, loss⟩, harmless⟩ := h
  refine ⟨reused, second, loss, ?_⟩
  rintro rfl
  simpa using harmless

theorem framesOf_same (sent : lane'.sent = lane.sent) (k : Nat) :
    lane'.framesOf k = lane.framesOf k := by
  rw [framesOf, framesOf, sent]

theorem lapsesOf_same (lapses : lane'.lapses = lane.lapses) (k : Nat) :
    lane'.lapsesOf k = lane.lapsesOf k := by
  rw [lapsesOf, lapsesOf, lapses]

theorem framesOf_concat (lane : Lane) {tx : Transmission} (sent : lane'.sent = lane.sent ++ [tx])
    (k : Nat) :
    lane'.framesOf k = lane.framesOf k ++ if tx.ticket = k then [tx] else [] := by
  rw [framesOf, framesOf, sent, List.filter_append]
  by_cases own : tx.ticket = k <;> simp [own]

theorem lapsesOf_concat (lane : Lane) {lapse : Lapse}
    (lapses : lane'.lapses = lane.lapses ++ [lapse]) (k : Nat) :
    lane'.lapsesOf k = lane.lapsesOf k ++ if lapse.ticket = k then [lapse] else [] := by
  rw [lapsesOf, lapsesOf, lapses, List.filter_append]
  by_cases own : lapse.ticket = k <;> simp [own]

theorem Earlier.go {earlier : List Transmission} (before : Earlier lane x earlier)
    (same : SameCall x y) (second : y.second = x.second) (lapses : lane'.lapses = lane.lapses)
    (apart : ∀ m, earlier = [⟨x.ticket, m, x.request⟩] →
      y.stage.connection? ≠ some m ∧ (y.stage = .choosing → lane'.slot = none)) :
    Earlier lane' y earlier := by
  have lapsesOf := lapsesOf_same lapses
  cases before with
  | first once none =>
    exact .first (second.trans once) (by rw [same.ticket, lapsesOf, none])
  | unsent e again one =>
    exact .unsent e (second.trans again) (by rw [same.ticket, lapsesOf, one])
  | sent m e again one loss reused harmless _ _ =>
    obtain ⟨other, vacant⟩ := apart m rfl
    have here : Earlier lane' y _ := .sent m e (second.trans again)
      (by rw [same.ticket, lapsesOf, one]) loss (same.reused.trans reused)
      (by rw [same.request]; exact harmless) other vacant
    rw [same.ticket, same.request] at here
    exact here

/-- An attempt goes on as it was as long as nothing is handed over and nothing fails. -/
theorem Attempting.go {earlier : List Transmission} (before : Earlier lane x earlier)
    (frames : lane.framesOf x.ticket = earlier ++ current x) (same : SameCall x y)
    (second : y.second = x.second) (sent : lane'.sent = lane.sent)
    (lapses : lane'.lapses = lane.lapses) (idle : current y = current x)
    (apart : ∀ m, earlier = [⟨x.ticket, m, x.request⟩] →
      y.stage.connection? ≠ some m ∧ (y.stage = .choosing → lane'.slot = none)) :
    Attempting lane' y := by
  refine ⟨earlier, before.go same second lapses apart, ?_⟩
  rw [framesOf_same sent, same.ticket, idle]
  exact frames

theorem Earlier.apart {earlier : List Transmission} (before : Earlier lane x earlier) (m : Nat)
    (eq : earlier = [⟨x.ticket, m, x.request⟩]) :
    x.stage.connection? ≠ some m ∧ (x.stage = .choosing → lane.slot = none) := by
  cases before with
  | first | unsent => cases eq
  | sent m' e _ _ _ _ _ apart vacant =>
    cases eq
    exact ⟨apart, vacant⟩

theorem current_eq (same : SameCall x y) (stage : y.stage = x.stage) : current y = current x := by
  rw [current, current, stage, same.ticket, same.request]

/-- Nothing has been handed over under the ticket of a call that is still in the queue. -/
theorem InTurn.untouched (h : InTurn target lane) {q : Nat × Operation} (waits : q ∈ lane.queue) :
    lane.framesOf q.1 = [] ∧ lane.lapsesOf q.1 = [] := by
  constructor
  · refine List.filter_eq_nil_iff.mpr fun tx htx => ?_
    have := (h.sent tx htx).2.2 q waits
    simp only [decide_eq_true_eq]
    omega
  · refine List.filter_eq_nil_iff.mpr fun lapse hl => ?_
    have := (h.lapses lapse hl).2.2 q waits
    simp only [decide_eq_true_eq]
    omega

theorem Move.attempting (move : Move target patience id lane e lane') (wired : Wired lane)
    (turns : InTurn target lane) (h : ∀ x, lane.exchange = some x → Attempting lane x)
    (held : lane'.exchange = some y) : Attempting lane' y := by
  cases move with
  | idle | refused | queued | ended =>
    obtain ⟨earlier, before, frames⟩ := h y held
    exact .go before frames ⟨rfl, rfl, rfl, rfl⟩ rfl rfl rfl rfl before.apart
  | abandoned ticket =>
    obtain ⟨earlier, before, frames⟩ := h y (Option.eq_some_of_filter_eq_some held)
    exact .go before frames ⟨rfl, rfl, rfl, rfl⟩ rfl rfl rfl rfl before.apart
  | handed e n ids mail connections log handing =>
    obtain ⟨x, hx, same, stage, second⟩ := exchange_of_posted held
    obtain ⟨earlier, before, frames⟩ := h x hx
    refine .go before frames same second rfl rfl (current_eq same stage) ?_
    rw [stage]
    exact before.apart
  | started ticket command timeout endpoint rest log free first known =>
    cases held
    obtain ⟨frames, lapses⟩ :=
      turns.untouched (q := (ticket, .send command timeout)) (by simp [first])
    exact ⟨[], .first rfl lapses, frames⟩
  | staged e x stage holds next =>
    cases held
    obtain ⟨earlier, before, frames⟩ := h x holds
    cases next with
    | keep n choosing usable =>
      refine .go before frames ⟨rfl, rfl, rfl, rfl⟩ rfl rfl rfl (by simp [current, choosing]) ?_
      intro m eq
      have vacant := (before.apart m eq).2 choosing
      rw [(usable_isOpen usable).1] at vacant
      cases vacant
    | dial choosing usable =>
      refine .go before frames ⟨rfl, rfl, rfl, rfl⟩ rfl rfl rfl (by simp [current, choosing]) ?_
      intro m eq
      exact ⟨nofun, nofun⟩
    | pass n entering usable =>
      refine .go before frames ⟨rfl, rfl, rfl, rfl⟩ rfl rfl rfl (by simp [current, entering]) ?_
      intro m eq
      have apart := (before.apart m eq).1
      rw [entering] at apart
      exact ⟨apart, nofun⟩
    | unanswered | early | linked =>
      exact .go before frames ⟨rfl, rfl, rfl, rfl⟩ rfl rfl rfl rfl before.apart
  | connected x log holds stage =>
    cases held
    obtain ⟨earlier, before, frames⟩ := h x holds
    refine .go before frames ⟨rfl, rfl, rfl, rfl⟩ rfl rfl rfl (by simp [current, stage]) ?_
    rintro m rfl
    refine ⟨?_, nofun⟩
    rintro ⟨⟩
    have listed : (⟨x.ticket, lane.connections.length, x.request⟩ : Transmission) ∈ lane.sent :=
      (List.mem_filter.mp (frames ▸ List.mem_append_left _ (List.mem_singleton_self _))).1
    exact Nat.lt_irrefl _ (wired.sent _ listed)
  | registered x n holds stage =>
    cases held
    obtain ⟨earlier, before, frames⟩ := h x holds
    refine .go before frames ⟨rfl, rfl, rfl, rfl⟩ rfl rfl rfl (by simp [current, stage]) ?_
    intro m eq
    have apart := (before.apart m eq).1
    rw [stage] at apart
    exact ⟨apart, nofun⟩
  | transmitted x n frame holds stage whole =>
    cases held
    obtain ⟨earlier, before, frames⟩ := h x holds
    refine ⟨earlier, before.go ⟨rfl, rfl, rfl, rfl⟩ rfl rfl ?_, ?_⟩
    · intro m eq
      have apart := (before.apart m eq).1
      rw [stage] at apart
      exact ⟨apart, nofun⟩
    · have none : current x = [] := by rw [current, stage]
      rw [none, List.append_nil] at frames
      rw [framesOf_concat lane rfl, frames, if_pos rfl]
      rfl
  | repeated e x error sent connections log holds snag again =>
    cases held
    obtain ⟨earlier, before, frames⟩ := h x holds
    obtain ⟨reused, once, loss, harmless⟩ := mayRepeat_eq_true again
    cases before with
    | unsent _ second | sent _ _ second => rw [once] at second; cases second
    | first _ none =>
      have lapses : Lane.lapsesOf
          { lane with lapses := lane.lapses ++ [⟨x.ticket, error, sent⟩] } x.ticket = _ :=
        lapsesOf_concat lane rfl x.ticket
      rw [none, if_pos rfl, List.nil_append] at lapses
      rcases snag.sent_eq with ⟨rfl, n, stage, attempt⟩ | ⟨rfl, attempt⟩
      · refine ⟨[⟨x.ticket, n, x.request⟩],
          .sent n error rfl lapses loss reused (harmless rfl) nofun fun _ => rfl, ?_⟩
        exact frames.trans (by rw [attempt]; rfl)
      · exact ⟨[], .unsent error rfl lapses, frames.trans (by rw [attempt]; rfl)⟩
  | _ => cases held

theorem Move.whole (move : Move target patience id lane e lane')
    (h : ∀ tx ∈ lane.sent, ∃ frame, Frame.encode tx.request.json = .ok frame) :
    ∀ tx ∈ lane'.sent, ∃ frame, Frame.encode tx.request.json = .ok frame := by
  intro tx htx
  rcases move.sent with eq | ⟨x, n, frame, _, _, whole, eq, _⟩
  · exact h tx (eq ▸ htx)
  · rw [eq] at htx
    rcases List.mem_append.mp htx with htx | htx
    · exact h tx htx
    · rw [List.mem_singleton.mp htx]
      exact ⟨frame, whole⟩

end Lane

namespace Command

/-- How many frames a call may hand over: asking for something does no harm, but what changes the
target happens once at most. -/
def allowance : Command → Nat
  | listClasses | fetchBytes _ => 2
  | halt | initClass _ | uploadClass .. | uploadArchive .. => 1

theorem allowance_pos (c : Command) : 1 ≤ c.allowance := by
  cases c <;> simp [allowance]

theorem allowance_eq_two {c : Command} (h : c.isRepeatable = true) : c.allowance = 2 := by
  cases c <;> first | rfl | cases h

end Command

namespace Channel

variable {patience : Duration} {t : Target} {events : History}

/-- The call found an open connection in the slot when it got the lane. -/
def Reused (patience : Duration) (t : Target) (events : History) (ticket : Nat) : Prop :=
  Granted patience t events ticket fun c => ∃ n, (c.lane t).usable? = some n

/-- A frame that leaves again: the command does no harm when it is asked twice, the call found an
open connection, and the first attempt was lost after its frame had left. -/
structure Resent (patience : Duration) (t : Target) (events : History) (lapses : List Lapse)
    (a b : Transmission) : Prop where
  ticket : b.ticket = a.ticket
  request : b.request = a.request
  connection : a.connection ≠ b.connection
  harmless : a.request.command.isRepeatable = true
  reused : Reused patience t events a.ticket
  lost : ∃ e, lapses.head? = some ⟨a.ticket, e, true⟩ ∧
    (e = .connectionClosed ∨ ∃ text, e = .io text)

inductive Spared (patience : Duration) (t : Target) (events : History) (lapses : List Lapse) :
    List Transmission → Prop
  | none : Spared patience t events lapses []
  | one (a : Transmission) : Spared patience t events lapses [a]
  | two (a b : Transmission) (again : Resent patience t events lapses a b) :
      Spared patience t events lapses [a, b]

theorem Spared.grow {lapses : List Lapse} {frames : List Transmission}
    (h : Spared patience t events lapses frames) (e : Target × LaneEvent) (more : List Lapse) :
    Spared patience t (events ++ [e]) (lapses ++ more) frames := by
  cases h with
  | none => exact .none
  | one a => exact .one a
  | two a b again =>
    obtain ⟨error, first, loss⟩ := again.lost
    refine .two a b { again with reused := again.reused.append _, lost := ⟨error, ?_, loss⟩ }
    rw [List.head?_append, first]
    rfl

theorem isLoss_iff {e : ChannelError} :
    e.isLoss = true ↔ e = .connectionClosed ∨ ∃ text, e = .io text := by
  cases e <;> simp [ChannelError.isLoss]

theorem attempting (patience : Duration) (t : Target) (events : History) :
    ∀ x, ((after patience events).lane t).exchange = some x →
      ((after patience events).lane t).Attempting x := by
  refine lane_induction (P := fun _ lane => ∀ x, lane.exchange = some x → lane.Attempting x)
    ?_ ?_ ?_ events
  · intro x held
    cases held
  · exact fun _ _ _ h => h
  · intro events e lane' h move _ y held
    exact move.attempting (wired patience t events) (inTurn patience t events) h held

theorem whole (patience : Duration) (t : Target) (events : History) :
    ∀ tx ∈ ((after patience events).lane t).sent,
      ∃ frame, Frame.encode tx.request.json = .ok frame := by
  refine lane_induction (P := fun _ lane => ∀ tx ∈ lane.sent,
    ∃ frame, Frame.encode tx.request.json = .ok frame) ?_ ?_ ?_ events
  · intro tx htx
    cases htx
  · exact fun _ _ _ h => h
  · exact fun _ _ _ h move _ => move.whole h

/-- A frame that is handed over now is the first of its call, or one that may leave again. -/
theorem spared_next {x : Exchange} {n : Nat}
    (held : ((after patience events).lane t).exchange = some x) (stage : x.stage = .writing n) :
    Spared patience t events (((after patience events).lane t).lapsesOf x.ticket)
      (((after patience events).lane t).framesOf x.ticket ++ [⟨x.ticket, n, x.request⟩]) := by
  obtain ⟨earlier, before, frames⟩ := attempting patience t events x held
  have none : Lane.current x = [] := by rw [Lane.current, stage]
  rw [frames, none, List.append_nil]
  cases before with
  | first | unsent => exact .one _
  | sent m e second lapses loss reused harmless apart vacant =>
    refine .two _ _ ⟨rfl, rfl, ?_, harmless, ?_, e, ?_, isLoss_iff.mp loss⟩
    · rw [stage] at apart
      exact fun same => apart (congrArg some same.symm)
    · obtain ⟨place, granted, turn, _, _, saw⟩ := exchange_granted patience t events x held
      rw [reused] at saw
      exact ⟨place, granted, turn, Option.isSome_iff_exists.mp saw⟩
    · rw [lapses]
      rfl

/-- Every call has sent one frame at most, or two as it may. -/
theorem spared (patience : Duration) (t : Target) (events : History) :
    ∀ k, Spared patience t events (((after patience events).lane t).lapsesOf k)
      (((after patience events).lane t).framesOf k) := by
  refine lane_induction (P := fun events lane => ∀ k,
    Spared patience t events (lane.lapsesOf k) (lane.framesOf k)) ?_ ?_ ?_ events
  · exact fun k => .none
  · intro events e _ h k
    have grown := (h k).grow e []
    rw [List.append_nil] at grown
    exact grown
  · intro events e lane' h move _ k
    have now : Spared patience t events (((after patience events).lane t).lapsesOf k)
        (lane'.framesOf k) := by
      rcases move.sent with frames | ⟨x, n, frame, held, stage, _, frames, _⟩
      · rw [Lane.framesOf_same frames]
        exact h k
      · rw [Lane.framesOf_concat _ frames]
        by_cases own : x.ticket = k
        · subst own
          rw [if_pos rfl]
          exact spared_next held stage
        · rw [if_neg own, List.append_nil]
          exact h k
    rcases move.lapses with lapses | ⟨x, error, sent, _, lapses⟩
    · rw [Lane.lapsesOf_same lapses, ← List.append_nil (Lane.lapsesOf _ k)]
      exact now.grow (t, e) []
    · rw [Lane.lapsesOf_concat _ lapses]
      exact now.grow (t, e) _

theorem framesOf_command {k : Nat} {command : Command} {timeout : Duration}
    (call : (callsOn t events)[k]? = some (.send command timeout)) :
    ∀ tx ∈ ((after patience events).lane t).framesOf k, tx.request.command = command := by
  intro tx mem
  obtain ⟨sent, ticket⟩ := Lane.mem_framesOf.mp mem
  obtain ⟨other, eq⟩ := (accounted patience t events).sent tx sent
  rw [ticket, call] at eq
  injection eq with eq
  injection eq with eq
  exact eq.symm

theorem framesOf_length_le {k : Nat} {command : Command} {timeout : Duration}
    (call : (callsOn t events)[k]? = some (.send command timeout)) :
    (((after patience events).lane t).framesOf k).length ≤ command.allowance := by
  have count := spared patience t events k
  have commands : ∀ tx ∈ ((after patience events).lane t).framesOf k,
    tx.request.command = command := framesOf_command call
  cases eq : ((after patience events).lane t).framesOf k with
  | nil => exact Nat.zero_le _
  | cons a rest =>
    rw [eq] at count commands
    cases count with
    | one => exact command.allowance_pos
    | two _ b again =>
      have asks := again.harmless
      rw [commands a List.mem_cons_self] at asks
      exact Nat.le_of_eq (Command.allowance_eq_two asks).symm

/-- However a run goes on, a call hands over one whole frame of its own request at most, and two
only if it asks for something, it found an open connection, and the first frame was lost with the
connection. The two are the same and go over different connections. -/
theorem call_transmissions (patience : Duration) (t : Target) (events : History) {k : Nat}
    {command : Command} {timeout : Duration}
    (call : (callsOn t events)[k]? = some (.send command timeout)) :
    let lane := (after patience events).lane t
    (lane.framesOf k).length ≤ command.allowance ∧
      (∀ tx ∈ lane.framesOf k, tx.request.command = command) ∧
      ∀ a b, lane.framesOf k = [a, b] →
        (∃ frame, Frame.encode a.request.json = .ok frame ∧
          Frame.encode b.request.json = .ok frame) ∧
        a.connection ≠ b.connection ∧
        Reused patience t events k ∧
        ∃ e, (lane.lapsesOf k).head? = some ⟨k, e, true⟩ ∧
          (e = .connectionClosed ∨ ∃ text, e = .io text) := by
  intro lane
  refine ⟨framesOf_length_le call, framesOf_command call, ?_⟩
  intro a b eq
  have count := spared patience t events k
  rw [eq] at count
  cases count with
  | two _ _ again =>
    obtain ⟨sent, ticket⟩ := Lane.mem_framesOf.mp (eq ▸ List.mem_cons_self)
    obtain ⟨frame, encoded⟩ := whole patience t events a sent
    subst ticket
    exact ⟨⟨frame, encoded, again.request ▸ encoded⟩, again.connection, again.reused, again.lost⟩

/-- A run in which a listing goes out twice: the agent closes the connection that a listing before
has left open. -/
def staleListing : History :=
  [.call (.attach ⟨"localhost", 6712⟩), .grant,
    .call (.send .listClasses (.ofSecs 15)), .grant, .choose, .dialed .connected, .enter, .register,
    .wrote .written, .wake true, .wake true,
    .call (.send .listClasses (.ofSecs 15)), .grant, .choose, .enter, .register, .wrote .written,
    .ended 0 .closedByAgent, .drained 0, .wake false,
    .choose, .dialed .connected, .enter, .register, .wrote .written].map (Target.process 7, ·)

theorem call_transmissions_stale :
    (callsOn (.process 7) staleListing)[2]? = some (.send .listClasses (.ofSecs 15)) ∧
      ∃ a b, ((after (.ofSecs 5) staleListing).lane (.process 7)).framesOf 2 = [a, b] ∧
        a.connection ≠ b.connection ∧
        Reused (.ofSecs 5) (.process 7) staleListing 2 := by
  have call : (callsOn (.process 7) staleListing)[2]? = some (.send .listClasses (.ofSecs 15)) :=
    rfl
  have frames : ((after (.ofSecs 5) staleListing).lane (.process 7)).framesOf 2 =
      [⟨2, 0, ⟨2, "localhost", 6712, .listClasses⟩⟩,
        ⟨2, 1, ⟨2, "localhost", 6712, .listClasses⟩⟩] := by
    decide +kernel
  obtain ⟨_, _, resent⟩ := call_transmissions (.ofSecs 5) (.process 7) staleListing call
  obtain ⟨_, apart, reused, _⟩ := resent _ _ frames
  exact ⟨call, _, _, frames, apart, reused⟩

end Channel

end ClassSwap
