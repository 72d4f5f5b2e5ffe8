import ClassSwap.Proofs.ChannelRun

namespace ClassSwap

open Channel

namespace Lane

/-- The tickets of the calls that are over, of the one that holds the lane, and of those that wait,
in this order. -/
def tickets (lane : Lane) : List Nat :=
  lane.finished.map (·.ticket) ++ lane.exchange.toList.map (·.ticket) ++ lane.queue.map (·.1)

/-- A ticket that no call has which is still to get the lane. -/
def Past (lane : Lane) (ticket : Nat) : Prop :=
  ticket < lane.calls ∧ (∀ x, lane.exchange = some x → ticket ≤ x.ticket) ∧
    ∀ q ∈ lane.queue, ticket < q.1

/-- Calls take their turns in the order of their tickets. -/
structure InTurn (target : Target) (lane : Lane) : Prop where
  increasing : lane.tickets.Pairwise (· < ·)
  below : ∀ k ∈ lane.tickets, k < lane.calls
  sent : ∀ tx ∈ lane.sent, lane.Past tx.ticket
  lapses : ∀ lapse ∈ lane.lapses, lane.Past lapse.ticket
  idle : target.isFileSystem = true → lane.queue = [] ∧ lane.exchange = none

variable {target : Target} {patience : Duration} {id : RequestId} {lane lane' : Lane}
  {e : LaneEvent}

theorem tickets_of_posted (n : Nat) (ids : List RequestId) (mail : Except ChannelError Response)
    (exchange : Option Exchange) :
    (posted n ids mail exchange).toList.map (·.ticket) = exchange.toList.map (·.ticket) := by
  cases exchange with
  | none => rfl
  | some x =>
    simp only [posted, Option.map_some, Option.toList_some, List.map_cons, List.map_nil]
    split <;> rfl

structure SameCall (x y : Exchange) : Prop where
  ticket : y.ticket = x.ticket
  request : y.request = x.request
  timeout : y.timeout = x.timeout
  reused : y.reused = x.reused

theorem exchange_of_posted {n : Nat} {ids : List RequestId}
    {mail : Except ChannelError Response} {exchange : Option Exchange} {y : Exchange}
    (h : posted n ids mail exchange = some y) :
    ∃ x, exchange = some x ∧ SameCall x y ∧ y.stage = x.stage ∧ y.second = x.second := by
  obtain ⟨x, hx, rfl⟩ := Option.map_eq_some_iff.mp h
  refine ⟨x, hx, ?_⟩
  split <;> exact ⟨⟨rfl, rfl, rfl, rfl⟩, rfl, rfl⟩

/-- The call that holds the lane after a move held it before, or has just got it. -/
theorem Move.holder (move : Move target patience id lane e lane') {y : Exchange}
    (held : lane'.exchange = some y) :
    (∃ x, lane.exchange = some x ∧ SameCall x y) ∨
      e = .grant ∧ lane.exchange = none ∧ ∃ command endpoint,
        lane.queue = (y.ticket, .send command y.timeout) :: lane'.queue ∧
        lane.standing.endpoint? = some endpoint ∧
        y = { ticket := y.ticket, request := ⟨id, endpoint.host, endpoint.port, command⟩,
              timeout := y.timeout, reused := lane.usable?.isSome } := by
  cases move with
  | started ticket command timeout endpoint rest log free first known =>
    cases held
    exact .inr ⟨rfl, free, command, endpoint, first, known, rfl⟩
  | handed e n ids mail connections log handing =>
    obtain ⟨x, hx, same, _⟩ := exchange_of_posted held
    exact .inl ⟨x, hx, same⟩
  | abandoned ticket => exact .inl ⟨y, Option.eq_some_of_filter_eq_some held, rfl, rfl, rfl, rfl⟩
  | idle | refused | queued | ended => exact .inl ⟨y, held, rfl, rfl, rfl, rfl⟩
  | staged _ x _ h | connected x _ h | registered x _ h | transmitted x _ _ h
  | repeated _ x _ _ _ _ h =>
    cases held
    exact .inl ⟨x, h, rfl, rfl, rfl, rfl⟩
  | _ => cases held

/-- The queue after a move: a call has come in at its end, or some calls have left it. -/
theorem Move.queue (move : Move target patience id lane e lane') :
    (lane'.calls = lane.calls + 1 ∧ ∃ operation, e = .call operation ∧
      lane'.queue = lane.queue ++ [(lane.calls, operation)]) ∨
    (lane.calls ≤ lane'.calls ∧ lane'.queue.Sublist lane.queue) := by
  cases move with
  | queued operation fs => exact .inl ⟨rfl, operation, rfl, rfl⟩
  | refused => exact .inr ⟨Nat.le_succ _, List.Sublist.refl _⟩
  | attached ticket endpoint rest log free first =>
    exact .inr ⟨(Nat.le_refl _), first ▸ List.sublist_cons_self _ _⟩
  | started ticket command timeout endpoint rest log free first known =>
    exact .inr ⟨(Nat.le_refl _), first ▸ List.sublist_cons_self _ _⟩
  | detached ticket command timeout rest free first unknown going =>
    exact .inr ⟨(Nat.le_refl _), first ▸ List.sublist_cons_self _ _⟩
  | left ticket timeout rest log free first unknown =>
    exact .inr ⟨(Nat.le_refl _), first ▸ List.sublist_cons_self _ _⟩
  | abandoned ticket => exact .inr ⟨(Nat.le_refl _), List.filter_sublist⟩
  | _ => exact .inr ⟨(Nat.le_refl _), List.Sublist.refl _⟩

/-- The tickets after a move: one may have come in at the end, and some may have gone. -/
theorem Move.tickets (move : Move target patience id lane e lane')
    (idle : target.isFileSystem = true → lane.queue = [] ∧ lane.exchange = none) :
    (lane'.calls = lane.calls ∧ lane'.tickets.Sublist lane.tickets) ∨
      (lane'.calls = lane.calls + 1 ∧ lane'.tickets = lane.tickets ++ [lane.calls]) := by
  cases move with
  | refused operation fs =>
    obtain ⟨queue, exchange⟩ := idle fs
    right
    simp [Lane.tickets, queue, exchange]
  | queued operation fs =>
    right
    simp [Lane.tickets, List.append_assoc]
  | abandoned ticket =>
    left
    refine ⟨rfl, ?_⟩
    simp only [Lane.tickets]
    refine List.Sublist.append (List.Sublist.append_left ?_ _) ?_
    · cases lane.exchange with
      | none => simp
      | some x => by_cases h : x.ticket = ticket <;> simp [Option.filter, h]
    · exact List.filter_sublist.map _
  | handed e n ids mail connections log handing =>
    left
    simp [Lane.tickets, tickets_of_posted]
  | _ =>
    left
    simp_all [Lane.tickets]

theorem Move.past (move : Move target patience id lane e lane') {k : Nat}
    (past : lane.Past k) : lane'.Past k := by
  obtain ⟨below, held, waiting⟩ := past
  refine ⟨?_, ?_, ?_⟩
  · rcases move.queue with ⟨calls, _⟩ | ⟨calls, _⟩ <;> omega
  · intro y hy
    rcases move.holder hy with ⟨x, hx, same⟩ | ⟨_, _, command, endpoint, first, _, _⟩
    · rw [same.ticket]
      exact held x hx
    · exact Nat.le_of_lt (waiting (y.ticket, .send command y.timeout) (by simp [first]))
  · intro q hq
    rcases move.queue with ⟨_, operation, _, queue⟩ | ⟨_, sub⟩
    · rw [queue] at hq
      rcases List.mem_append.mp hq with hq | hq
      · exact waiting q hq
      · rw [List.mem_singleton.mp hq]
        exact below
    · exact waiting q (sub.subset hq)

theorem Move.sent (move : Move target patience id lane e lane') :
    lane'.sent = lane.sent ∨ ∃ x n frame, lane.exchange = some x ∧ x.stage = .writing n ∧
      Frame.encode x.request.json = .ok frame ∧
      lane'.sent = lane.sent ++ [⟨x.ticket, n, x.request⟩] ∧
      lane'.exchange = some { x with stage := .waiting n } := by
  cases move with
  | transmitted x n frame held stage whole =>
    exact .inr ⟨x, n, frame, held, stage, whole, rfl, rfl⟩
  | _ => exact .inl rfl

theorem Move.lapses (move : Move target patience id lane e lane') :
    lane'.lapses = lane.lapses ∨ ∃ x error sent, lane.exchange = some x ∧
      lane'.lapses = lane.lapses ++ [⟨x.ticket, error, sent⟩] := by
  cases move with
  | unheard e x error sent connections log held snag halt =>
    exact .inr ⟨x, error, sent, held, rfl⟩
  | repeated e x error sent connections log held snag again =>
    exact .inr ⟨x, error, sent, held, rfl⟩
  | failed e x error sent connections log held snag going once =>
    exact .inr ⟨x, error, sent, held, rfl⟩
  | _ => exact .inl rfl

theorem InTurn.exchange_past (h : InTurn target lane) {x : Exchange}
    (held : lane.exchange = some x) : lane.Past x.ticket := by
  have order := h.increasing
  simp only [Lane.tickets, held, Option.toList_some, List.map_cons, List.map_nil,
    List.append_assoc, List.singleton_append] at order
  have later := (List.pairwise_cons.mp (List.pairwise_append.mp order).2.1).1
  refine ⟨h.below _ (by simp [Lane.tickets, held]), ?_, ?_⟩
  · intro y hy
    rw [held] at hy
    cases hy
    exact Nat.le_refl _
  · intro q hq
    exact later _ (List.mem_map_of_mem hq)

theorem InTurn.unfinished (h : InTurn target lane) {x : Exchange} (held : lane.exchange = some x) :
    ∀ f ∈ lane.finished, f.ticket ≠ x.ticket := by
  intro f mem
  have order := (List.pairwise_append.mp (List.pairwise_append.mp h.increasing).1).2.2
  have earlier := order f.ticket (List.mem_map_of_mem mem) x.ticket (by simp [held])
  omega

theorem Move.inTurn (move : Move target patience id lane e lane') (h : InTurn target lane) :
    InTurn target lane' := by
  have tickets := move.tickets h.idle
  constructor
  case increasing =>
    rcases tickets with ⟨_, sub⟩ | ⟨_, eq⟩
    · exact h.increasing.sublist sub
    · rw [eq]
      refine List.pairwise_append.mpr ⟨h.increasing, List.pairwise_singleton _ _, ?_⟩
      intro k hk l hl
      rw [List.mem_singleton.mp hl]
      exact h.below k hk
  case below =>
    rcases tickets with ⟨calls, sub⟩ | ⟨calls, eq⟩
    · intro k hk
      rw [calls]
      exact h.below k (sub.subset hk)
    · intro k hk
      rw [eq] at hk
      rcases List.mem_append.mp hk with hk | hk
      · have := h.below k hk
        omega
      · have := List.mem_singleton.mp hk
        omega
  case sent =>
    intro tx htx
    rcases move.sent with eq | ⟨x, n, frame, held, _, _, eq, _⟩
    · exact move.past (h.sent tx (eq ▸ htx))
    · rw [eq] at htx
      rcases List.mem_append.mp htx with htx | htx
      · exact move.past (h.sent tx htx)
      · rw [List.mem_singleton.mp htx]
        exact move.past (h.exchange_past held)
  case lapses =>
    intro lapse hl
    rcases move.lapses with eq | ⟨x, error, sent, held, eq⟩
    · exact move.past (h.lapses lapse (eq ▸ hl))
    · rw [eq] at hl
      rcases List.mem_append.mp hl with hl | hl
      · exact move.past (h.lapses lapse hl)
      · rw [List.mem_singleton.mp hl]
        exact move.past (h.exchange_past held)
  case idle =>
    intro fs
    obtain ⟨queue, exchange⟩ := h.idle fs
    cases move <;> simp_all [posted]

/-- Everything that a lane keeps under a ticket belongs to the call with that ticket. -/
structure Accounted (operations : List Operation) (lane : Lane) : Prop where
  count : lane.calls = operations.length
  queue : ∀ q ∈ lane.queue, operations[q.1]? = some q.2
  exchange : ∀ x, lane.exchange = some x →
    operations[x.ticket]? = some (.send x.request.command x.timeout)
  finished : ∀ f ∈ lane.finished, operations[f.ticket]? = some f.operation
  sent : ∀ tx ∈ lane.sent, ∃ timeout,
    operations[tx.ticket]? = some (.send tx.request.command timeout)

/-- The calls that are over after a move: one more at most, which held the lane, was the first in
the queue, or has just come in. -/
theorem Move.finished (move : Move target patience id lane e lane') :
    lane'.finished = lane.finished ∨ ∃ f, lane'.finished = lane.finished ++ [f] ∧
      ((∃ x, lane.exchange = some x ∧ f.ticket = x.ticket ∧
        f.operation = .send x.request.command x.timeout) ∨
      (∃ rest, lane.queue = (f.ticket, f.operation) :: rest) ∨
      (f.ticket = lane.calls ∧ e = .call f.operation)) := by
  cases move with
  | refused operation fs => exact .inr ⟨_, rfl, .inr (.inr ⟨rfl, rfl⟩)⟩
  | attached ticket endpoint rest log free first => exact .inr ⟨_, rfl, .inr (.inl ⟨rest, first⟩)⟩
  | detached ticket command timeout rest free first unknown going =>
    exact .inr ⟨_, rfl, .inr (.inl ⟨rest, first⟩)⟩
  | left ticket timeout rest log free first unknown =>
    exact .inr ⟨_, rfl, .inr (.inl ⟨rest, first⟩)⟩
  | unheard _ x _ _ _ _ held => exact .inr ⟨_, rfl, .inl ⟨x, held, rfl, rfl⟩⟩
  | failed _ x _ _ _ _ held => exact .inr ⟨_, rfl, .inl ⟨x, held, rfl, rfl⟩⟩
  | halted x _ _ _ _ held => exact .inr ⟨_, rfl, .inl ⟨x, held, rfl, rfl⟩⟩
  | misjudged x _ _ _ _ held => exact .inr ⟨_, rfl, .inl ⟨x, held, rfl, rfl⟩⟩
  | answered x _ _ _ _ _ held => exact .inr ⟨_, rfl, .inl ⟨x, held, rfl, rfl⟩⟩
  | _ => exact .inl rfl

theorem Move.calls (move : Move target patience id lane e lane') :
    lane'.calls = lane.calls + (incoming e).length := by
  cases move with
  | idle e log quiet => simp [quiet]
  | refused | queued => rfl
  | staged _ _ _ _ next => cases next <;> rfl
  | unheard _ _ _ _ _ _ _ snag | repeated _ _ _ _ _ _ _ snag | failed _ _ _ _ _ _ _ snag =>
    cases snag <;> rfl
  | handed _ _ _ _ _ _ handing => cases handing <;> rfl
  | _ => rfl

theorem Move.accounted (move : Move target patience id lane e lane')
    {operations : List Operation} (h : Accounted operations lane) :
    Accounted (operations ++ incoming e) lane' := by
  have grow {k : Nat} {operation : Operation} (ho : operations[k]? = some operation) :=
    Channel.getElem?_append_of_some (incoming e) ho
  constructor
  case count => rw [move.calls, h.count, List.length_append]
  case queue =>
    intro q hq
    rcases move.queue with ⟨_, operation, rfl, queue⟩ | ⟨_, sub⟩
    · rw [queue] at hq
      rcases List.mem_append.mp hq with hq | hq
      · exact grow (h.queue q hq)
      · rw [List.mem_singleton.mp hq, h.count]
        simp [incoming]
    · exact grow (h.queue q (sub.subset hq))
  case exchange =>
    intro y hy
    apply grow
    rcases move.holder hy with ⟨x, hx, same⟩ | ⟨_, _, command, endpoint, first, _, eq⟩
    · rw [same.ticket, same.request, same.timeout]
      exact h.exchange x hx
    · rw [h.queue (y.ticket, .send command y.timeout) (by simp [first]), eq]
  case finished =>
    intro f hf
    rcases move.finished with eq | ⟨g, eq, source⟩
    · exact grow (h.finished f (eq ▸ hf))
    · rw [eq] at hf
      rcases List.mem_append.mp hf with hf | hf
      · exact grow (h.finished f hf)
      · cases List.mem_singleton.mp hf
        rcases source with ⟨x, hx, ticket, operation⟩ | ⟨rest, first⟩ | ⟨ticket, rfl⟩
        · rw [ticket, operation]
          exact grow (h.exchange x hx)
        · exact grow (h.queue (f.ticket, f.operation) (by simp [first]))
        · rw [ticket, h.count]
          simp [incoming]
  case sent =>
    intro tx htx
    rcases move.sent with eq | ⟨x, n, frame, held, _, _, eq, _⟩
    · obtain ⟨timeout, ho⟩ := h.sent tx (eq ▸ htx)
      exact ⟨timeout, grow ho⟩
    · rw [eq] at htx
      rcases List.mem_append.mp htx with htx | htx
      · obtain ⟨timeout, ho⟩ := h.sent tx htx
        exact ⟨timeout, grow ho⟩
      · rw [List.mem_singleton.mp htx]
        exact ⟨x.timeout, grow (h.exchange x held)⟩

/-- The tickets of the calls that are over and of the one that holds the lane. -/
def begun (lane : Lane) : List Nat :=
  lane.finished.map (·.ticket) ++ lane.exchange.toList.map (·.ticket)

/-- A call that gets the lane has it until it is over or dropped. -/
theorem Move.begun (move : Move target patience id lane e lane')
    (vm : target.isFileSystem = false) :
    lane'.begun = lane.begun ++ lane.turn e ∨ ∃ ticket, e = .abandoned ticket ∧
      lane'.begun.Sublist lane.begun ∧ ∀ k ∈ lane.begun, k ∈ lane'.begun ∨ k = ticket := by
  cases move with
  | idle e log quiet still => simp [still, Lane.begun]
  | refused operation fs => rw [vm] at fs; cases fs
  | handed e n ids mail connections log handing =>
    have still : lane.turn e = [] := by cases handing <;> rfl
    simp [still, Lane.begun, tickets_of_posted]
  | abandoned ticket =>
    right
    refine ⟨ticket, rfl, ?_⟩
    simp only [Lane.begun]
    cases lane.exchange with
    | none => exact ⟨List.Sublist.refl _, fun k hk => .inl hk⟩
    | some x =>
      by_cases h : x.ticket = ticket
      · simp only [Option.filter, h, Option.toList, ne_eq, not_true, decide_false]
        refine ⟨List.Sublist.append_left (List.nil_sublist _) _, ?_⟩
        intro k hk
        rcases List.mem_append.mp hk with hk | hk
        · exact .inl (List.mem_append_left _ hk)
        · simp only [List.map_cons, List.map_nil, List.mem_singleton] at hk
          exact .inr (hk.trans h)
      · simp only [Option.filter, ne_eq, h, not_false_eq_true, decide_true, if_true]
        exact ⟨List.Sublist.refl _, fun k hk => .inl hk⟩
  | attached ticket endpoint rest log free first => simp [turn, Lane.begun, free, first]
  | started ticket command timeout endpoint rest log free first known =>
    simp [turn, Lane.begun, free, first]
  | detached ticket command timeout rest free first unknown going =>
    simp [turn, Lane.begun, free, first]
  | left ticket timeout rest log free first unknown => simp [turn, Lane.begun, free, first]
  | staged e x stage held next =>
    have still : lane.turn e = [] := by cases next <;> rfl
    simp [still, Lane.begun, held]
  | unheard e x _ _ _ _ held snag | repeated e x _ _ _ _ held snag
  | failed e x _ _ _ _ held snag =>
    have still : lane.turn e = [] := by cases snag <;> rfl
    simp [still, Lane.begun, held]
  | _ => simp_all [turn, Lane.begun]

/-- Calls get the lane from the front of the queue. -/
theorem Move.turn (move : Move target patience id lane e lane') :
    (lane'.calls = lane.calls + 1 ∧ lane.turn e = [] ∧
      lane'.queue.map (·.1) = lane.queue.map (·.1) ++ [lane.calls]) ∨
    (lane.calls ≤ lane'.calls ∧
      (lane.turn e ++ lane'.queue.map (·.1)).Sublist (lane.queue.map (·.1))) := by
  cases move with
  | idle e log quiet still => exact .inr ⟨Nat.le_refl _, by simp [still]⟩
  | queued operation fs => exact .inl ⟨rfl, rfl, by simp⟩
  | refused operation fs => exact .inr ⟨Nat.le_succ _, List.Sublist.refl _⟩
  | attached ticket endpoint rest log free first =>
    exact .inr ⟨Nat.le_refl _, by simp [Lane.turn, free, first]⟩
  | started ticket command timeout endpoint rest log free first known =>
    exact .inr ⟨Nat.le_refl _, by simp [Lane.turn, free, first]⟩
  | detached ticket command timeout rest free first unknown going =>
    exact .inr ⟨Nat.le_refl _, by simp [Lane.turn, free, first]⟩
  | left ticket timeout rest log free first unknown =>
    exact .inr ⟨Nat.le_refl _, by simp [Lane.turn, free, first]⟩
  | abandoned ticket => exact .inr ⟨Nat.le_refl _, List.filter_sublist.map _⟩
  | staged e x stage held next =>
    exact .inr ⟨Nat.le_refl _, by cases next <;> exact List.Sublist.refl _⟩
  | handed e n ids mail connections log handing =>
    exact .inr ⟨Nat.le_refl _, by cases handing <;> exact List.Sublist.refl _⟩
  | unheard e x _ _ _ _ held snag | repeated e x _ _ _ _ held snag
  | failed e x _ _ _ _ held snag =>
    exact .inr ⟨Nat.le_refl _, by cases snag <;> exact List.Sublist.refl _⟩
  | _ => exact .inr ⟨Nat.le_refl _, List.Sublist.refl _⟩

end Lane

namespace Channel

theorem callsOn_here (t : Target) (events : History) (e : LaneEvent) :
    callsOn t (events ++ [(t, e)]) = callsOn t events ++ Lane.incoming e := by
  rw [callsOn_append]
  cases e <;> simp [callsOn, Lane.incoming]

theorem callsOn_elsewhere {t : Target} (events : History) {e : Target × LaneEvent}
    (other : e.1 ≠ t) : callsOn t (events ++ [e]) = callsOn t events := by
  obtain ⟨target, e⟩ := e
  rw [callsOn_append]
  cases e <;> simp_all [callsOn]

/-- The tickets of the calls on a target that have got its lane, in order. -/
def holders (t : Target) (c : Channel) : History → List Nat
  | [] => []
  | e :: events =>
    (if e.1 = t then (c.lane t).turn e.2 else []) ++ holders t (c.step e.1 e.2) events

theorem holders_eq_record (t : Target) (c : Channel) (events : History) :
    holders t c events = record Lane.turn t c events := by
  induction events generalizing c with
  | nil => rfl
  | cons e events ih => rw [holders, record, ih]

theorem holders_here (t : Target) (c : Channel) (events : History) (e : LaneEvent) :
    holders t c (events ++ [(t, e)]) = holders t c events ++ ((c.run events).lane t).turn e := by
  rw [holders_eq_record, holders_eq_record, record_here]

theorem holders_elsewhere {t : Target} (c : Channel) (events : History) {e : Target × LaneEvent}
    (other : e.1 ≠ t) : holders t c (events ++ [e]) = holders t c events := by
  rw [holders_eq_record, holders_eq_record, record_elsewhere _ c events other]

/-- The calls that are over or hold the lane have got it in this order. -/
theorem begun_sublist_holders (patience : Duration) {t : Target} (vm : t.isFileSystem = false)
    (events : History) :
    ((after patience events).lane t).begun.Sublist (holders t (fresh patience) events) := by
  refine lane_induction (P := fun events lane =>
    lane.begun.Sublist (holders t (fresh patience) events)) ?_ ?_ ?_ events
  · simp [Lane.begun]
  · intro events e other h
    rw [holders_elsewhere _ events other]
    exact h
  · intro events e lane' h move _
    rw [holders_here]
    rcases move.begun vm with begun | ⟨ticket, _, sub, _⟩
    · rw [begun]
      exact h.append_right _
    · exact sub.trans (h.trans (List.sublist_append_left _ _))

/-- A call that has got the lane is over, or holds it still, or has been dropped. -/
theorem mem_begun_of_mem_holders (patience : Duration) {t : Target}
    (vm : t.isFileSystem = false) (events : History) :
    ∀ k ∈ holders t (fresh patience) events,
      k ∈ ((after patience events).lane t).begun ∨ (t, .abandoned k) ∈ events := by
  refine lane_induction (P := fun events lane => ∀ k ∈ holders t (fresh patience) events,
    k ∈ lane.begun ∨ (t, .abandoned k) ∈ events) ?_ ?_ ?_ events
  · simp [holders]
  · intro events e other h k hk
    rw [holders_elsewhere _ events other] at hk
    rcases h k hk with begun | dropped
    · exact .inl begun
    · exact .inr (List.mem_append_left _ dropped)
  · intro events e lane' h move _ k hk
    rw [holders_here] at hk
    rcases move.begun vm with begun | ⟨ticket, rfl, _, kept⟩
    · rw [begun]
      rcases List.mem_append.mp hk with hk | hk
      · rcases h k hk with begun | dropped
        · exact .inl (List.mem_append_left _ begun)
        · exact .inr (List.mem_append_left _ dropped)
      · exact .inl (List.mem_append_right _ hk)
    · rcases h k (by simpa [Lane.turn] using hk) with begun | dropped
      · rcases kept k begun with begun | rfl
        · exact .inl begun
        · exact .inr (by simp)
      · exact .inr (List.mem_append_left _ dropped)

/-- Calls get the lane in the order in which they came in. -/
theorem holders_increasing (patience : Duration) (t : Target) (events : History) :
    (holders t (fresh patience) events).Pairwise (· < ·) := by
  suffices order : (holders t (fresh patience) events ++
        ((after patience events).lane t).queue.map (·.1)).Pairwise (· < ·) ∧
      ∀ k ∈ holders t (fresh patience) events ++
        ((after patience events).lane t).queue.map (·.1),
          k < ((after patience events).lane t).calls from
    (List.pairwise_append.mp order.1).1
  refine lane_induction (P := fun events lane =>
    (holders t (fresh patience) events ++ lane.queue.map (·.1)).Pairwise (· < ·) ∧
      ∀ k ∈ holders t (fresh patience) events ++ lane.queue.map (·.1), k < lane.calls)
    ?_ ?_ ?_ events
  · simp [holders]
  · intro events e other h
    rw [holders_elsewhere _ events other]
    exact h
  · intro events e lane' ⟨increasing, below⟩ move _
    rw [holders_here]
    rcases move.turn with ⟨calls, still, queue⟩ | ⟨calls, sub⟩
    · rw [still, queue, List.append_nil, ← List.append_assoc, calls]
      constructor
      · refine List.pairwise_append.mpr ⟨increasing, List.pairwise_singleton _ _, ?_⟩
        intro k hk l hl
        rw [List.mem_singleton.mp hl]
        exact below k hk
      · intro k hk
        rcases List.mem_append.mp hk with hk | hk
        · exact Nat.lt_succ_of_lt (below k hk)
        · rw [List.mem_singleton.mp hk]
          exact Nat.lt_succ_self _
    · rw [List.append_assoc]
      have sub := List.Sublist.append_left sub (holders t (fresh patience) events)
      refine ⟨increasing.sublist sub, ?_⟩
      intro k hk
      have := below k (sub.subset hk)
      omega

theorem inTurn (patience : Duration) (t : Target) (events : History) :
    Lane.InTurn t ((after patience events).lane t) := by
  refine lane_induction (P := fun _ lane => Lane.InTurn t lane) ?_ ?_ ?_ events
  · constructor <;> simp [Lane.tickets]
  · exact fun _ _ _ h => h
  · exact fun _ _ _ h move _ => move.inTurn h

theorem accounted (patience : Duration) (t : Target) (events : History) :
    Lane.Accounted (callsOn t events) ((after patience events).lane t) := by
  refine lane_induction (P := fun events lane => Lane.Accounted (callsOn t events) lane) ?_ ?_ ?_
    events
  · constructor <;> simp [callsOn]
  · intro events e other h
    rw [callsOn_elsewhere events other]
    exact h
  · intro events e lane' h move _
    rw [callsOn_here]
    exact move.accounted h

/-- The call with this ticket got the lane at some point of the run, when the channel was such as
`saw` says. -/
def Granted (patience : Duration) (t : Target) (events : History) (ticket : Nat)
    (saw : Channel → Prop) : Prop :=
  ∃ place, events[place]? = some (t, .grant) ∧
    ((after patience (events.take place)).lane t).turn .grant = [ticket] ∧
    saw (after patience (events.take place))

theorem Granted.append {patience : Duration} {t : Target} {events : History} {ticket : Nat}
    {saw : Channel → Prop} (h : Granted patience t events ticket saw) (more : History) :
    Granted patience t (events ++ more) ticket saw := by
  obtain ⟨place, granted, state⟩ := h
  refine ⟨place, getElem?_append_of_some more granted, ?_⟩
  rw [take_append_of_some more granted]
  exact state

/-- The call that holds the lane has the number that was next when it got it, and remembers whether
it saw an open connection then. -/
theorem exchange_granted (patience : Duration) (t : Target) (events : History) :
    ∀ x, ((after patience events).lane t).exchange = some x →
      Granted patience t events x.ticket fun c =>
        (c.lane t).takesNumber = true ∧ c.nextId = x.request.id ∧
          (c.lane t).usable?.isSome = x.reused := by
  refine lane_induction (P := fun events lane => ∀ x, lane.exchange = some x →
    Granted patience t events x.ticket fun c => (c.lane t).takesNumber = true ∧
      c.nextId = x.request.id ∧ (c.lane t).usable?.isSome = x.reused) ?_ ?_ ?_ events
  · intro x held
    cases held
  · exact fun events e _ h x held => (h x held).append _
  · intro events e lane' h move _ y held
    rcases move.holder held with
      ⟨x, hx, same⟩ | ⟨rfl, free, command, endpoint, first, known, begun⟩
    · rw [same.ticket, same.request, same.reused]
      exact (h x hx).append _
    · refine ⟨events.length, by simp, ?_⟩
      rw [List.take_left]
      refine ⟨by simp [Lane.turn, free, first], ?_, ?_, ?_⟩
      · simp [Lane.takesNumber, free, first, Standing.isAttached, known]
      · rw [begun]
      · rw [begun]

end Channel

end ClassSwap
