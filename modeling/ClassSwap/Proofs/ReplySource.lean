import ClassSwap.Proofs.ReplyVerdict
import ClassSwap.Proofs.RequestNumbers
import ClassSwap.Proofs.Transmissions

namespace ClassSwap

open Channel

namespace Lane

variable {target : Target} {patience : Duration} {id : RequestId} {lane lane' : Lane}
  {x y : Exchange} {e : LaneEvent}

/-- An attach leaves no connection behind. -/
theorem Move.attach_finished (move : Move target patience id lane e lane') {n : Nat}
    (slot : lane'.slot = some n) {g : Finished} (mem : g ∈ lane'.finished)
    (attach : g.outcome = .attached) : g ∈ lane.finished := by
  have old {f : Finished} (other : f.outcome ≠ .attached) (h : g ∈ lane.finished ++ [f]) :
      g ∈ lane.finished := by
    rcases List.mem_append.mp h with h | h
    · exact h
    · rw [List.mem_singleton.mp h] at attach
      exact absurd attach other
  cases move with
  | attached | left | unheard | halted => cases slot
  | refused | detached | failed | misjudged | answered =>
    refine old ?_ mem
    simp
  | _ => exact mem

/-- What the call that holds the lane has got after a move: what it had, or a response with its
number that has just arrived. -/
theorem Move.mail (move : Move target patience id lane e lane') {r : Response}
    (held : lane'.exchange = some y) (mail : y.mail = some (.ok r)) :
    ∃ x, lane.exchange = some x ∧ SameCall x y ∧
      ((x.mail = some (.ok r) ∧ ∀ n, x.stage.connection? = some n → y.stage.connection? = some n) ∨
        ∃ n payload c, e = .received n payload ∧ Frame.decode Response.read payload = .ok r ∧
          r.id = x.request.id ∧ (x.stage = .writing n ∨ x.stage = .waiting n) ∧ x.mail = none ∧
          y.stage = x.stage ∧ lane.connections[n]? = some c ∧ c.reader = .reading) := by
  cases move with
  | started => cases held; cases mail
  | repeated => cases held; cases mail
  | handed e n ids answer connections log handing =>
    obtain ⟨x, hx, rfl⟩ := Option.map_eq_some_iff.mp held
    refine ⟨x, hx, ?_⟩
    split at mail
    next awaits =>
      rw [if_pos awaits]
      refine ⟨⟨rfl, rfl, rfl, rfl⟩, .inr ?_⟩
      cases mail
      cases handing with
      | reply n c payload r entry reading decoded awaited =>
        obtain ⟨own, stage, empty⟩ := awaits
        exact ⟨n, payload, c, rfl, decoded, (List.mem_singleton.mp own).symm, stage, empty, rfl,
          entry, reading⟩
    next other =>
      rw [if_neg other]
      exact ⟨⟨rfl, rfl, rfl, rfl⟩, .inl ⟨mail, fun _ connection => connection⟩⟩
  | abandoned ticket =>
    exact ⟨y, Option.eq_some_of_filter_eq_some held, ⟨rfl, rfl, rfl, rfl⟩,
      .inl ⟨mail, fun _ connection => connection⟩⟩
  | idle | refused | queued | ended =>
    exact ⟨y, held, ⟨rfl, rfl, rfl, rfl⟩, .inl ⟨mail, fun _ connection => connection⟩⟩
  | staged e x stage holds next =>
    cases held
    refine ⟨x, holds, ⟨rfl, rfl, rfl, rfl⟩, .inl ⟨mail, ?_⟩⟩
    intro n connection
    cases next with
    | keep _ choosing | dial choosing => rw [choosing] at connection; cases connection
    | pass m entering => rw [entering] at connection; exact connection
    | unanswered | early | linked => exact connection
  | connected x log holds stage =>
    cases held
    refine ⟨x, holds, ⟨rfl, rfl, rfl, rfl⟩, .inl ⟨mail, ?_⟩⟩
    intro n connection
    rw [stage] at connection
    cases connection
  | registered x m holds stage =>
    cases held
    refine ⟨x, holds, ⟨rfl, rfl, rfl, rfl⟩, .inl ⟨mail, ?_⟩⟩
    intro n connection
    rw [stage] at connection
    exact connection
  | transmitted x m frame holds stage =>
    cases held
    refine ⟨x, holds, ⟨rfl, rfl, rfl, rfl⟩, .inl ⟨mail, ?_⟩⟩
    intro n connection
    rw [stage] at connection
    exact connection
  | _ => cases held

/-- A call that is answered after a move was so before, or has just got a response that answers its
command. -/
theorem Move.answered_finished (move : Move target patience id lane e lane') {f : Finished}
    (mem : f ∈ lane'.finished) {command : Command} {timeout : Duration} {reply : Reply}
    (operation : f.operation = .send command timeout) (outcome : f.outcome = .answered reply)
    (going : command ≠ .halt) :
    f ∈ lane.finished ∨ ∃ x n r, lane.exchange = some x ∧ x.stage = .waiting n ∧
      x.mail = some (.ok r) ∧ x.request.command = command ∧
      Reply.judge command r = .ok reply ∧ f.ticket = x.ticket := by
  have last {g : Finished} (h : f ∈ lane.finished ++ [g]) : f ∈ lane.finished ∨ f = g := by
    rcases List.mem_append.mp h with h | h
    · exact .inl h
    · exact .inr (List.mem_singleton.mp h)
  cases move with
  | refused | attached | detached | failed | misjudged =>
    rcases last mem with old | rfl
    · exact .inl old
    · cases outcome
  | left ticket timeout rest log free first unknown =>
    rcases last mem with old | rfl
    · exact .inl old
    · cases operation
      exact absurd rfl going
  | unheard e x error sent connections log held snag halt
  | halted x n r expired log held stage mail halt =>
    rcases last mem with old | rfl
    · exact .inl old
    · cases operation
      exact absurd halt going
  | answered x n r expired answer log held stage mail _ verdict =>
    rcases last mem with old | rfl
    · exact .inl old
    · cases operation
      cases outcome
      exact .inr ⟨x, n, r, held, stage, mail, rfl, verdict, rfl⟩
  | _ => exact .inl mem

/-- Calls that are over before another one were so before a move. -/
theorem Move.finished_before (move : Move target patience id lane e lane')
    (turns : InTurn target lane') {f g : Finished} (hf : f ∈ lane'.finished)
    (hg : g ∈ lane'.finished) (earlier : g.ticket < f.ticket) : g ∈ lane.finished := by
  rcases move.finished with eq | ⟨h, eq, _⟩
  · exact eq ▸ hg
  · have order := turns.increasing
    simp only [Lane.tickets, eq, List.map_append, List.append_assoc] at order
    have order := (List.pairwise_append.mp order).2.2
    rw [eq] at hf hg
    rcases List.mem_append.mp hg with hg | hg
    · exact hg
    · rcases List.mem_append.mp hf with hf | hf
      · have := order f.ticket (List.mem_map_of_mem hf) h.ticket (by simp)
        rw [List.mem_singleton.mp hg] at earlier
        omega
      · rw [List.mem_singleton.mp hg, List.mem_singleton.mp hf] at earlier
        omega

theorem Move.sent_subset (move : Move target patience id lane e lane') :
    ∀ tx ∈ lane.sent, tx ∈ lane'.sent := by
  intro tx htx
  rcases move.sent with eq | ⟨x, n, frame, _, _, _, eq, _⟩
  · exact eq ▸ htx
  · exact eq ▸ List.mem_append_left _ htx

end Lane

namespace Channel

variable {patience : Duration} {t : Target} {events : History}

/-- The connection with number `n` was opened at this place of the run. -/
structure Opened (patience : Duration) (t : Target) (events : History) (n opening : Nat) :
    Prop where
  event : events[opening]? = some (t, .dialed .connected)
  before : ((after patience (events.take opening)).lane t).connections.length = n
  after : ((after patience (events.take (opening + 1))).lane t).connections.length = n + 1

theorem Opened.append {n opening : Nat} (h : Opened patience t events n opening)
    (more : History) : Opened patience t (events ++ more) n opening := by
  obtain ⟨event, before, after⟩ := h
  have bound : opening < events.length := (List.getElem?_eq_some_iff.mp event).1
  refine ⟨getElem?_append_of_some more event, ?_, ?_⟩
  · rw [take_append_of_some more event]
    exact before
  · rw [List.take_append_of_le_length bound]
    exact after

/-- The attaches that are over were over already when the connection was opened. -/
def Recent (patience : Duration) (t : Target) (events : History) (finished : List Finished)
    (opening : Nat) : Prop :=
  ∀ g ∈ finished, g.outcome = .attached →
    g ∈ ((after patience (events.take opening)).lane t).finished

theorem Recent.later {finished finished' : List Finished} {n opening : Nat}
    (h : Recent patience t events finished opening) (opened : Opened patience t events n opening)
    (more : History)
    (kept : ∀ g ∈ finished', g.outcome = .attached → g ∈ finished) :
    Recent patience t (events ++ more) finished' opening := by
  intro g mem attach
  rw [take_append_of_some more opened.event]
  exact h g (kept g mem attach) attach

/-- The connection in the slot was opened since the latest attach. -/
theorem slot_opened (patience : Duration) (t : Target) (events : History) :
    ∀ n, ((after patience events).lane t).slot = some n →
      ∃ opening, Opened patience t events n opening ∧
        Recent patience t events ((after patience events).lane t).finished opening := by
  refine lane_induction (P := fun events lane => ∀ n, lane.slot = some n →
    ∃ opening, Opened patience t events n opening ∧
      Recent patience t events lane.finished opening) ?_ ?_ ?_ events
  · intro n slot
    cases slot
  · intro events e _ h n slot
    obtain ⟨opening, opened, recent⟩ := h n slot
    exact ⟨opening, opened.append _, recent.later opened _ fun _ mem _ => mem⟩
  · intro events e lane' h move eq n slot
    have kept := fun g mem attach => move.attach_finished slot (g := g) mem attach
    rcases move.slot slot with old | ⟨rfl, count, grown⟩
    · obtain ⟨opening, opened, recent⟩ := h n old
      exact ⟨opening, opened.append _, recent.later opened _ kept⟩
    · refine ⟨events.length, ⟨by simp, ?_, ?_⟩, ?_⟩
      · rw [List.take_left]
        exact count.symm
      · rw [List.take_of_length_le (by simp), eq]
        exact grown
      · intro g mem attach
        rw [List.take_left]
        exact kept g mem attach

/-- Where a response comes from: the places in the run where its frame arrived and where the
connection was opened, and the request that it answers. -/
structure Source where
  place : Nat
  opening : Nat
  connection : Nat
  response : Response
  request : Request

/-- The response has arrived while this call waited for it. -/
structure Arrived (patience : Duration) (t : Target) (events : History) (ticket : Nat)
    (s : Source) : Prop where
  frame : ∃ payload, events[s.place]? = some (t, .received s.connection payload) ∧
    Frame.decode Response.read payload = .ok s.response
  awaited : ∃ x, ((after patience (events.take s.place)).lane t).exchange = some x ∧
    x.ticket = ticket ∧ x.request = s.request
  id : s.response.id = s.request.id
  opened : Opened patience t events s.connection s.opening
  before : s.opening < s.place

theorem Arrived.append {ticket : Nat} {s : Source} (h : Arrived patience t events ticket s)
    (more : History) : Arrived patience t (events ++ more) ticket s := by
  obtain ⟨⟨payload, event, decoded⟩, awaited, id, opened, before⟩ := h
  refine ⟨⟨payload, getElem?_append_of_some more event, decoded⟩, ?_, id, opened.append more,
    before⟩
  rw [take_append_of_some more event]
  exact awaited

/-- What the reader has handed to the call that holds the lane. -/
structure Delivered (patience : Duration) (t : Target) (events : History) (lane : Lane)
    (x : Exchange) (r : Response) (s : Source) : Prop where
  response : s.response = r
  request : s.request = x.request
  arrived : Arrived patience t events x.ticket s
  stage : x.stage.connection? = some s.connection
  recent : Recent patience t events lane.finished s.opening

theorem mail_delivered (patience : Duration) (t : Target) (events : History) :
    ∀ x r, ((after patience events).lane t).exchange = some x → x.mail = some (.ok r) →
      ∃ s, Delivered patience t events ((after patience events).lane t) x r s := by
  refine lane_induction (P := fun events lane => ∀ x r, lane.exchange = some x →
    x.mail = some (.ok r) → ∃ s, Delivered patience t events lane x r s) ?_ ?_ ?_ events
  · intro x r held
    cases held
  · intro events e _ h x r held mail
    obtain ⟨s, response, request, arrived, stage, recent⟩ := h x r held mail
    exact ⟨s, response, request, arrived.append _, stage,
      recent.later arrived.opened _ fun _ mem _ => mem⟩
  · intro events e lane' h move eq y r held mail
    obtain ⟨x, hx, same, old | ⟨n, payload, _, rfl, decoded, own, before, _, stage, _⟩⟩ :=
      move.mail held mail
    · obtain ⟨kept, on⟩ := old
      obtain ⟨s, response, request, arrived, stage, recent⟩ := h x r hx kept
      have slot := move.stage (wired patience t events).stage held (on _ stage)
      refine ⟨s, response, request.trans same.request.symm, ?_, on _ stage, ?_⟩
      · rw [same.ticket]
        exact arrived.append _
      · exact recent.later arrived.opened _ fun g mem attach =>
          move.attach_finished slot mem attach
    · have connection : x.stage.connection? = some n := by
        rcases before with before | before <;> rw [before] <;> rfl
      have slot := (wired patience t events).stage x n hx connection
      obtain ⟨opening, opened, recent⟩ := slot_opened patience t events n slot
      have bound : opening < events.length := (List.getElem?_eq_some_iff.mp opened.event).1
      have slot' := move.stage (wired patience t events).stage held (stage ▸ connection)
      refine ⟨⟨events.length, opening, n, r, y.request⟩, rfl, rfl, ?_, stage ▸ connection, ?_⟩
      · refine ⟨⟨payload, by simp, decoded⟩, ⟨x, ?_, same.ticket.symm, same.request.symm⟩, ?_,
          opened.append _, bound⟩
        · rw [List.take_left]
          exact hx
        · rw [same.request]
          exact own
      · exact recent.later opened _ fun g mem attach => move.attach_finished slot' mem attach

/-- The call has come to this reply because of this response: its own request went out on the
connection, which was opened for the target since the latest attach before the call. -/
structure Completes (patience : Duration) (t : Target) (events : History) (lane : Lane)
    (ticket : Nat) (command : Command) (reply : Reply) (s : Source) : Prop where
  arrived : Arrived patience t events ticket s
  sent : ⟨ticket, s.connection, s.request⟩ ∈ lane.sent
  asked : s.request.command = command
  action : s.response.action = command.action
  status : s.response.status = .ok
  content : Reply.Answers s.response reply command
  recent : Recent patience t events (lane.finished.filter (·.ticket < ticket)) s.opening

theorem Completes.later {lane lane' : Lane} {ticket : Nat} {command : Command} {reply : Reply}
    {s : Source} (h : Completes patience t events lane ticket command reply s) (more : History)
    (sent : ∀ tx ∈ lane.sent, tx ∈ lane'.sent)
    (finished : ∀ g ∈ lane'.finished, g.ticket < ticket → g ∈ lane.finished) :
    Completes patience t (events ++ more) lane' ticket command reply s := by
  refine ⟨h.arrived.append more, sent _ h.sent, h.asked, h.action, h.status, h.content, ?_⟩
  refine h.recent.later h.arrived.opened more fun g mem _ => ?_
  obtain ⟨mem, earlier⟩ := List.mem_filter.mp mem
  exact List.mem_filter.mpr ⟨finished g mem (of_decide_eq_true earlier), earlier⟩

theorem answered_completes (patience : Duration) (t : Target) (events : History) :
    ∀ f ∈ ((after patience events).lane t).finished, ∀ command timeout reply,
      f.operation = .send command timeout → f.outcome = .answered reply → command ≠ .halt →
      ∃ s,
        Completes patience t events ((after patience events).lane t) f.ticket command reply s := by
  refine lane_induction (P := fun events lane => ∀ f ∈ lane.finished, ∀ command timeout reply,
    f.operation = .send command timeout → f.outcome = .answered reply → command ≠ .halt →
    ∃ s, Completes patience t events lane f.ticket command reply s) ?_ ?_ ?_ events
  · intro f mem
    cases mem
  · intro events e _ h f mem command timeout reply operation outcome going
    obtain ⟨s, completes⟩ := h f mem command timeout reply operation outcome going
    exact ⟨s, completes.later _ (fun _ sent => sent) (fun _ mem _ => mem)⟩
  · intro events e lane' h move eq f mem command timeout reply operation outcome going
    have turns := move.inTurn (inTurn patience t events)
    have before := fun g mem' => move.finished_before turns (f := f) (g := g) mem mem'
    rcases move.answered_finished mem operation outcome going with
      old | ⟨x, n, r, held, stage, mail, command_eq, verdict, ticket⟩
    · obtain ⟨s, completes⟩ := h f old command timeout reply operation outcome going
      exact ⟨s, completes.later _ move.sent_subset before⟩
    · obtain ⟨s, rfl, request, arrived, on, recent⟩ :=
        mail_delivered patience t events x r held mail
      obtain ⟨action, status, content⟩ := Reply.judge_eq_ok_iff.mp verdict
      obtain ⟨earlier, _, frames⟩ := attempting patience t events x held
      have sent : (⟨x.ticket, n, x.request⟩ : Transmission) ∈
          ((after patience events).lane t).framesOf x.ticket := by
        rw [frames, Lane.current, stage]
        exact List.mem_append_right _ (List.mem_singleton_self _)
      rw [stage] at on
      cases on
      refine ⟨s, ticket ▸ arrived.append _, ?_, request ▸ command_eq, action, status, content, ?_⟩
      · rw [ticket, request]
        exact move.sent_subset _ (List.mem_filter.mp sent).1
      · refine recent.later arrived.opened _ fun g mem' _ => ?_
        obtain ⟨mem', earlier⟩ := List.mem_filter.mp mem'
        exact before g mem' (of_decide_eq_true earlier)

/-- A frame that is sent has the number that its call took. -/
theorem sent_granted (patience : Duration) (t : Target) (events : History) :
    ∀ tx ∈ ((after patience events).lane t).sent, Granted patience t events tx.ticket fun c =>
      (c.lane t).takesNumber = true ∧ c.nextId = tx.request.id := by
  refine lane_induction (P := fun events lane => ∀ tx ∈ lane.sent,
    Granted patience t events tx.ticket fun c =>
      (c.lane t).takesNumber = true ∧ c.nextId = tx.request.id) ?_ ?_ ?_ events
  · intro tx sent
    cases sent
  · exact fun events e _ h tx sent => (h tx sent).append _
  · intro events e lane' h move _ tx sent
    rcases move.sent with eq | ⟨x, n, frame, held, _, _, eq, _⟩
    · exact (h tx (eq ▸ sent)).append _
    · rw [eq] at sent
      rcases List.mem_append.mp sent with sent | sent
      · exact (h tx sent).append _
      · rw [List.mem_singleton.mp sent]
        obtain ⟨place, granted, turn, takes, number, _⟩ := exchange_granted patience t events x held
        exact Granted.append ⟨place, granted, turn, takes, number⟩ _

/-- Whatever agents send, a call is answered only by a response to its own request that has come in
on a connection opened for the target since its latest attach. No response completes two calls, and
none with the number of another call's request, such as one that has timed out, completes this. -/
theorem replies_have_sources (patience : Duration) (events : History)
    (few : (fresh patience).issued events < UInt64.size) :
    (∀ t, ∀ f ∈ ((after patience events).lane t).finished, ∀ command timeout reply,
      f.operation = .send command timeout → f.outcome = .answered reply → command ≠ .halt →
      (callsOn t events)[f.ticket]? = some (.send command timeout) ∧
        ∃ s, Completes patience t events ((after patience events).lane t) f.ticket command reply
          s) ∧
    (∀ t u k l command other reply yield s r,
      Completes patience t events ((after patience events).lane t) k command reply s →
      Completes patience u events ((after patience events).lane u) l other yield r →
      s.place = r.place → t = u ∧ k = l) ∧
    ∀ t k command reply s,
      Completes patience t events ((after patience events).lane t) k command reply s →
      ∀ u, ∀ tx ∈ ((after patience events).lane u).sent,
        tx.request.id = s.response.id → u = t ∧ tx.ticket = k := by
  refine ⟨?_, ?_, ?_⟩
  · intro t f mem command timeout reply operation outcome going
    refine ⟨?_, answered_completes patience t events f mem command timeout reply operation outcome
      going⟩
    rw [(accounted patience t events).finished f mem, operation]
  · intro t u k l command other reply yield s r first second same
    obtain ⟨_, event, _⟩ := first.arrived.frame
    obtain ⟨_, event', _⟩ := second.arrived.frame
    obtain ⟨x, held, ticket, _⟩ := first.arrived.awaited
    obtain ⟨y, held', ticket', _⟩ := second.arrived.awaited
    rw [← same] at event' held'
    have target : t = u := congrArg Prod.fst (Option.some.inj (event.symm.trans event'))
    subst target
    have call : x = y := Option.some.inj (held.symm.trans held')
    exact ⟨rfl, by rw [← ticket, ← ticket', call]⟩
  · intro t k command reply s completes u tx sent number
    have own := sent_granted patience t events _ completes.sent
    have theirs := sent_granted patience u events tx sent
    rw [number, completes.arrived.id] at theirs
    exact number_unique few theirs own

/-- A listing that is answered with no classes. -/
def emptyListing : History :=
  [.call (.attach ⟨"localhost", 6712⟩), .grant,
    .call (.send .listClasses (.ofSecs 15)), .grant, .choose, .dialed .connected, .enter, .register,
    .wrote .written,
    .received 0 (Frame.payloadOf
      (Response.json { id := 1, action := .listClasses, status := .ok, classes := some [] })),
    .wake false].map (Target.process 7, ·)

theorem replies_have_sources_listing :
    (fresh (.ofSecs 5)).issued emptyListing < UInt64.size ∧
      (⟨1, .send .listClasses (.ofSecs 15), .answered (.classes [])⟩ : Finished) ∈
        ((after (.ofSecs 5) emptyListing).lane (.process 7)).finished ∧
      ∃ s, Completes (.ofSecs 5) (.process 7) emptyListing
        ((after (.ofSecs 5) emptyListing).lane (.process 7)) 1 .listClasses (.classes []) s := by
  have few : (fresh (.ofSecs 5)).issued emptyListing < UInt64.size := by decide +kernel
  have mem : (⟨1, .send .listClasses (.ofSecs 15), .answered (.classes [])⟩ : Finished) ∈
      ((after (.ofSecs 5) emptyListing).lane (.process 7)).finished := by
    decide +kernel
  obtain ⟨sources, _, _⟩ := replies_have_sources (.ofSecs 5) emptyListing few
  exact ⟨few, mem, (sources (.process 7) _ mem _ _ _ rfl rfl nofun).2⟩

end Channel

end ClassSwap
