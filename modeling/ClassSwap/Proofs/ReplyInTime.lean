import ClassSwap.Proofs.ReplySource

namespace ClassSwap

open Channel

def Reply.outcome (command : Command) (r : Response) : Outcome :=
  match judge command r with
  | .ok reply => .answered reply
  | .error e => .failed e

/-- What any call comes to that has got a response; a halt does not depend on what it says. -/
def Reply.conclusion (command : Command) (r : Response) : Outcome :=
  if command = .halt then .answered .halted else outcome command r

namespace Lane

/-- The request that awaits a response is listed with its connection until something has come. -/
def Listed (lane : Lane) : Prop :=
  ∀ x n, lane.exchange = some x → (x.stage = .writing n ∨ x.stage = .waiting n) → x.mail = none →
    ∃ c, lane.connections[n]? = some c ∧ x.request.id ∈ c.pending

variable {target : Target} {patience : Duration} {id : RequestId} {lane lane' : Lane}
  {x y : Exchange} {e : LaneEvent}

theorem getElem?_modify_self {connections : List Connection} {n : Nat} {c : Connection}
    (f : Connection → Connection) (entry : connections[n]? = some c) :
    (connections.modify n f)[n]? = some (f c) := by
  rw [List.getElem?_modify_eq, entry]
  rfl

/-- What is handed over reaches the request that is listed. -/
theorem Handing.listed {n m : Nat} {ids : List RequestId} {mail : Except ChannelError Response}
    {connections : List Connection} (handing : Handing lane e m ids mail connections)
    {number : RequestId} {c : Connection} (entry : lane.connections[n]? = some c)
    (pending : number ∈ c.pending) (passed : m = n → number ∉ ids) :
    ∃ c, connections[n]? = some c ∧ number ∈ c.pending := by
  by_cases here : m = n
  · subst here
    have other := passed rfl
    cases handing with
    | reply _ c' payload r entry' =>
      cases entry.symm.trans entry'
      refine ⟨_, getElem?_modify_self _ entry, ?_⟩
      have apart : number ≠ r.id := by simpa using other
      exact (List.mem_erase_of_ne apart).mpr pending
    | unreadable _ c' payload error entry' | gone _ c' entry' =>
      cases entry.symm.trans entry'
      exact absurd pending other
  · cases handing with
    | reply | unreadable => exact ⟨c, (List.getElem?_modify_ne _ _ here).trans entry, pending⟩
    | gone =>
      refine ⟨c, ?_, pending⟩
      rw [List.getElem?_modify_ne _ _ here, List.getElem?_modify_ne _ _ here]
      exact entry

theorem Move.listed (move : Move target patience id lane e lane') (wired : Wired lane)
    (h : Listed lane) : Listed lane' := by
  intro y n held stage mail
  cases move with
  | idle | refused | queued => exact h y n held stage mail
  | abandoned ticket => exact h y n (Option.eq_some_of_filter_eq_some held) stage mail
  | started | repeated | connected =>
    cases held
    rcases stage with stage | stage <;> cases stage
  | staged e x stage' holds next =>
    cases held
    cases next with
    | keep | dial | pass => rcases stage with stage | stage <;> cases stage
    | unanswered | early | linked => exact h x n holds stage mail
  | registered x m holds before =>
    cases held
    have on : n = m := by
      rcases stage with stage | stage <;> cases stage
      rfl
    subst on
    have slot := wired.stage x n holds (by rw [before]; rfl)
    have bound := wired.slot n slot
    refine ⟨_, getElem?_modify_self _ (List.getElem?_eq_getElem bound), ?_⟩
    simp
  | transmitted x m frame holds before =>
    cases held
    have on : n = m := by
      rcases stage with stage | stage <;> cases stage
      rfl
    subst on
    exact h x n holds (.inl before) mail
  | handed e m ids answer connections log handing =>
    obtain ⟨x, hx, rfl⟩ := Option.map_eq_some_iff.mp held
    split at stage
    next awaits =>
      rw [if_pos awaits] at mail
      cases mail
    next passed =>
      rw [if_neg passed] at mail ⊢
      obtain ⟨c, entry, pending⟩ := h x n hx stage mail
      refine handing.listed entry pending ?_
      rintro rfl own
      exact passed ⟨own, stage, mail⟩
  | ended m c ending log entry =>
    obtain ⟨c', entry', pending⟩ := h y n held stage mail
    by_cases here : m = n
    · subst here
      exact ⟨_, getElem?_modify_self _ entry', pending⟩
    · exact ⟨c', (List.getElem?_modify_ne _ _ here).trans entry', pending⟩
  | _ => cases held

/-- The call has left the connection behind, with no whole frame sent over it. -/
structure Elsewhere (lane : Lane) (k n : Nat) : Prop extends Behind lane k n where
  unsent : ∀ tx ∈ lane.sent, tx.ticket = k → tx.connection ≠ n

theorem Move.elsewhere (move : Move target patience id lane e lane') {k n : Nat}
    (h : Elsewhere lane k n) : Elsewhere lane' k n := by
  refine ⟨move.behind h.toBehind, ?_⟩
  intro tx mem own
  rcases move.sent with eq | ⟨x, m, frame, held, stage, _, eq, _⟩
  · exact h.unsent tx (eq ▸ mem) own
  · rw [eq] at mem
    rcases List.mem_append.mp mem with mem | mem
    · exact h.unsent tx mem own
    · rw [List.mem_singleton.mp mem] at own ⊢
      have apart := (h.apart x held own).1
      rw [stage] at apart
      exact fun same => apart (congrArg some same)

/-- An attempt of the call has failed whose frame was out, because its time was over or its
connection closed. -/
def CutShort (lane : Lane) (k : Nat) : Prop :=
  ∃ l ∈ lane.lapses, l.ticket = k ∧ l.sent = true ∧
    (l.error = .connectionClosed ∨ ∃ action after, l.error = .timeout action after)

theorem Move.cutShort (move : Move target patience id lane e lane') {k : Nat}
    (h : CutShort lane k) : CutShort lane' k := by
  obtain ⟨l, mem, facts⟩ := h
  rcases move.lapses with eq | ⟨x, error, sent, _, eq⟩
  · exact ⟨l, eq ▸ mem, facts⟩
  · exact ⟨l, eq ▸ List.mem_append_left _ mem, facts⟩

/-- What has become of a call that got a response on a connection. The response may have come
`late`, behind the look of the caller for it. -/
inductive Heard (lane : Lane) (k n : Nat) (q : Request) (r : Response) (late : Prop) : Prop
  | held (x : Exchange) (holds : lane.exchange = some x) (ticket : x.ticket = k)
      (request : x.request = q) (mail : x.mail = some (.ok r))
      (stage : x.stage = .writing n ∨ x.stage = .waiting n) (glance : x.glance = .mail ∨ late) :
      Heard lane k n q r late
  | decided (f : Finished) (mem : f ∈ lane.finished) (ticket : f.ticket = k)
      (outcome : f.outcome = Reply.conclusion q.command r) : Heard lane k n q r late
  | elsewhere (h : Elsewhere lane k n) : Heard lane k n q r late
  | missed (h : Behind lane k n) (behind : late) (cut : CutShort lane k) : Heard lane k n q r late

theorem Move.finished_subset (move : Move target patience id lane e lane') {f : Finished}
    (mem : f ∈ lane.finished) : f ∈ lane'.finished := by
  rcases move.finished with eq | ⟨g, eq, _⟩
  · exact eq ▸ mem
  · exact eq ▸ List.mem_append_left _ mem

/-- An attempt of a call that has got a response fails only while its frame is being written, or
when its caller looks at something else. -/
theorem Snag.heard {error : ChannelError} {sent : Bool} {connections : List Connection}
    (snag : Snag patience lane x e error sent connections) {n : Nat} {r : Response}
    (mail : x.mail = some (.ok r)) (stage : x.stage = .writing n ∨ x.stage = .waiting n) :
    x.stage = .writing n ∨ x.glance ≠ .mail ∧ sent = true ∧
      (error = .connectionClosed ∨ ∃ action after, error = .timeout action after) := by
  cases snag with
  | refused s | unreachable _ s | slow s | shut _ s =>
    rw [s] at stage
    rcases stage with stage | stage <;> cases stage
  | oversized _ _ _ s | unwritten _ _ s =>
    rcases stage with stage | stage
    · exact .inl stage
    · rw [s] at stage
      cases stage
  | told _ _ _ _ other =>
    rw [other] at mail
    cases mail
  | overdue _ _ glance => exact .inr ⟨by rw [glance]; decide, rfl, .inr ⟨_, _, rfl⟩⟩
  | lost _ _ glance => exact .inr ⟨by rw [glance]; decide, rfl, .inl rfl⟩

/-- As long as its frame is being written, a call has sent none over that connection. -/
theorem Attempting.unsent (h : Attempting lane x) {n : Nat} (stage : x.stage = .writing n) :
    ∀ tx ∈ lane.sent, tx.ticket = x.ticket → tx.connection ≠ n := by
  intro tx mem own
  obtain ⟨earlier, before, frames⟩ := h
  have none_ : current x = [] := by rw [current, stage]
  have listed : tx ∈ lane.framesOf x.ticket := List.mem_filter.mpr ⟨mem, decide_eq_true own⟩
  rw [frames, none_, List.append_nil] at listed
  cases before with
  | first | unsent => cases listed
  | sent m e _ _ _ _ _ apart =>
    rw [List.mem_singleton.mp listed]
    rw [stage] at apart
    exact fun same => apart (congrArg some same.symm)

/-- Where an attempt has failed whose call had got a response, either its frame was not out or the
response came behind the look of the caller. -/
theorem Attempting.snagged (attempting : Attempting lane x) {error : ChannelError} {sent : Bool}
    {connections : List Connection} (snag : Snag patience lane x e error sent connections) {n : Nat}
    {r : Response} {late : Prop} (mail : x.mail = some (.ok r))
    (stage : x.stage = .writing n ∨ x.stage = .waiting n) (glance : x.glance = .mail ∨ late)
    (behind : Behind lane' x.ticket n) (quiet : lane'.sent = lane.sent)
    (lapsed : lane'.lapses = lane.lapses ++ [⟨x.ticket, error, sent⟩]) :
    Heard lane' x.ticket n x.request r late := by
  rcases snag.heard mail stage with writing | ⟨away, out, why⟩
  · refine .elsewhere ⟨behind, ?_⟩
    rw [quiet]
    exact attempting.unsent writing
  · refine .missed behind (glance.resolve_left away) ⟨⟨x.ticket, error, sent⟩, ?_, rfl, out, why⟩
    rw [lapsed]
    exact List.mem_append_right _ (List.mem_singleton_self _)

theorem Move.heard (move : Move target patience id lane e lane') (wired : Wired lane)
    (turns : InTurn target lane) (attempting : ∀ x, lane.exchange = some x → Attempting lane x)
    {k n : Nat} {q : Request} {r : Response} {late : Prop} (h : Heard lane k n q r late)
    (kept : e ≠ .abandoned k) : Heard lane' k n q r late := by
  cases h with
  | decided f mem ticket outcome => exact .decided f (move.finished_subset mem) ticket outcome
  | elsewhere h => exact .elsewhere (move.elsewhere h)
  | missed h behind cut => exact .missed (move.behind h) behind (move.cutShort cut)
  | held x holds ticket request mail stage glance =>
    subst ticket request
    have on : x.stage.connection? = some n := by
      rcases stage with stage | stage <;> rw [stage] <;> rfl
    have known : n < lane.connections.length := wired.slot n (wired.stage x n holds on)
    have behind (apart : ∀ z, lane'.exchange = some z → z.ticket = x.ticket →
        z.stage.connection? ≠ some n ∧ (z.stage = .choosing → lane'.slot = none)) :
        Behind lane' x.ticket n :=
      ⟨Nat.lt_of_lt_of_le known move.connections_length, move.past (turns.exchange_past holds),
        apart⟩
    cases move with
    | idle | refused | queued | ended => exact .held x holds rfl rfl mail stage glance
    | abandoned ticket =>
      refine .held x ?_ rfl rfl mail stage glance
      have other : x.ticket ≠ ticket := fun same => kept (same ▸ rfl)
      simp [holds, Option.filter, other]
    | handed e m ids answer connections log handing =>
      refine .held x ?_ rfl rfl mail stage glance
      simp [holds, posted, mail]
    | attached _ _ _ _ free | started _ _ _ _ _ _ free | detached _ _ _ _ free
    | left _ _ _ _ free =>
      rw [free] at holds
      cases holds
    | staged e y stage' holds' next =>
      cases holds.symm.trans holds'
      cases next with
      | keep _ s | dial s | pass _ s =>
        rw [s] at stage
        rcases stage with stage | stage <;> cases stage
      | unanswered _ _ _ _ empty =>
        rw [empty] at mail
        cases mail
      | early _ _ clock =>
        have behind : late := glance.resolve_left (by rw [clock]; decide)
        exact .held _ rfl rfl rfl mail stage (.inr behind)
      | linked => exact .held _ rfl rfl rfl mail stage (.inl rfl)
    | connected y log holds' s | registered y m holds' s =>
      cases holds.symm.trans holds'
      rw [s] at stage
      rcases stage with stage | stage <;> cases stage
    | transmitted y m frame holds' s =>
      cases holds.symm.trans holds'
      have on : m = n := by
        rw [s] at stage
        rcases stage with stage | stage <;> cases stage
        rfl
      exact .held _ rfl rfl rfl mail (.inr (congrArg _ on)) glance
    | unheard e y error sent connections log holds' snag
    | failed e y error sent connections log holds' snag =>
      cases holds.symm.trans holds'
      refine (attempting x holds).snagged snag mail stage glance (behind ?_) rfl rfl
      intro z held
      cases held
    | repeated e y error sent connections log holds' snag =>
      cases holds.symm.trans holds'
      refine (attempting x holds).snagged snag mail stage glance (behind ?_) rfl rfl
      intro z held _
      cases held
      refine ⟨fun again => ?_, fun _ => rfl⟩
      cases again
    | halted y m response expired log holds' _ _ halt =>
      cases holds.symm.trans holds'
      refine .decided _ (List.mem_append_right _ (List.mem_singleton_self _)) rfl ?_
      rw [Reply.conclusion, if_pos halt]
    | misjudged y m response expired error holds' _ mail' going verdict =>
      cases holds.symm.trans holds'
      cases mail.symm.trans mail'
      refine .decided _ (List.mem_append_right _ (List.mem_singleton_self _)) rfl ?_
      simp only [Reply.conclusion, if_neg going, Reply.outcome, verdict]
    | answered y m response expired reply log holds' _ mail' going verdict =>
      cases holds.symm.trans holds'
      cases mail.symm.trans mail'
      refine .decided _ (List.mem_append_right _ (List.mem_singleton_self _)) rfl ?_
      simp only [Reply.conclusion, if_neg going, Reply.outcome, verdict]

/-- A response is handed to the call that awaits it. -/
theorem step_received {n : Nat} {c : Connection} {payload : Bytes} {r : Response}
    (holds : lane.exchange = some x) (stage : x.stage = .writing n ∨ x.stage = .waiting n)
    (waits : x.mail = none) (entry : lane.connections[n]? = some c) (reading : c.reader = .reading)
    (pending : x.request.id ∈ c.pending) (decoded : Frame.decode Response.read payload = .ok r)
    (own : r.id = x.request.id) :
    (lane.step target patience id (.received n payload)).exchange =
      some { x with mail := some (.ok r) } := by
  have awaited : c.pending.contains r.id = true := List.contains_iff_mem.mpr (own ▸ pending)
  have awaits : x.request.id ∈ [r.id] ∧ (x.stage = .writing n ∨ x.stage = .waiting n) ∧
      x.mail = none :=
    ⟨List.mem_singleton.mpr own.symm, stage, waits⟩
  simp only [step, attend, entry, reading, if_true, received, decoded, awaited, deliver_eq]
  show posted n [r.id] (.ok r) lane.exchange = _
  rw [holds, posted, Option.map_some, if_pos awaits]

/-- A caller that looks for a response and finds it is done. -/
theorem step_wake {n : Nat} {r : Response} {expired : Bool} (holds : lane.exchange = some x)
    (stage : x.stage = .waiting n) (glance : x.glance = .mail) (mail : x.mail = some (.ok r)) :
    ∃ f ∈ (lane.step target patience id (.wake expired)).finished, f.ticket = x.ticket ∧
      f.outcome = Reply.conclusion x.request.command r := by
  simp only [step, proceed, holds, wake, stage, glance, mail, settle, Reply.conclusion]
  split
  next halt => exact ⟨_, List.mem_append_right _ (List.mem_singleton_self _), rfl, rfl⟩
  next going =>
    simp only [Reply.outcome]
    split
    next e verdict =>
      exact ⟨_, List.mem_append_right _ (List.mem_singleton_self _), rfl, by rw [verdict]⟩
    next reply verdict =>
      exact ⟨_, List.mem_append_right _ (List.mem_singleton_self _), rfl, by rw [verdict]⟩

end Lane

namespace Channel

variable {patience : Duration} {t : Target} {events : History}

theorem listed (patience : Duration) (t : Target) (events : History) :
    ((after patience events).lane t).Listed := by
  refine lane_induction (P := fun _ lane => lane.Listed) ?_ ?_ ?_ events
  · intro x n held
    cases held
  · exact fun _ _ _ h => h
  · intro events e lane' h move _
    exact move.listed (wired patience t events) h

/-- At this place of the run a response to the request comes in on the connection that the request
goes out on, while its call waits for one. -/
structure Responds (patience : Duration) (t : Target) (events : History) (k n : Nat) (q : Request)
    (r : Response) (place : Nat) : Prop where
  frame : ∃ payload, events[place]? = some (t, .received n payload) ∧
    Frame.decode Response.read payload = .ok r
  waits : ∃ x, ((after patience (events.take place)).lane t).exchange = some x ∧ x.ticket = k ∧
    x.request = q ∧ x.mail = none ∧ (x.stage = .writing n ∨ x.stage = .waiting n)
  reading : ∃ c, ((after patience (events.take place)).lane t).connections[n]? = some c ∧
    c.reader = .reading
  id : r.id = q.id

/-- What can be seen of a run when a response comes in for a request whose frame is out. -/
theorem responds_of_waiting {k n place : Nat} {q : Request} {r : Response} {payload : Bytes}
    (event : events[place]? = some (t, .received n payload))
    (decoded : Frame.decode Response.read payload = .ok r)
    (waits : (((after patience (events.take place)).lane t).exchange.any fun x =>
      x.ticket = k ∧ x.request = q ∧ x.mail.isNone ∧ x.stage = .waiting n) = true)
    (reading : (((after patience (events.take place)).lane t).connections[n]?.any fun c =>
      c.reader = .reading) = true)
    (id : r.id = q.id) : Responds patience t events k n q r place := by
  obtain ⟨x, holds, facts⟩ := (Option.any_eq_true _ _).mp waits
  obtain ⟨ticket, request, mail, stage⟩ := of_decide_eq_true facts
  obtain ⟨c, entry, state⟩ := (Option.any_eq_true _ _).mp reading
  exact ⟨⟨payload, event, decoded⟩,
    ⟨x, holds, ticket, request, Option.isNone_iff_eq_none.mp mail, .inr stage⟩,
    ⟨c, entry, of_decide_eq_true state⟩, id⟩

theorem Responds.append {k n place : Nat} {q : Request} {r : Response}
    (h : Responds patience t events k n q r place) (more : History) :
    Responds patience t (events ++ more) k n q r place := by
  obtain ⟨⟨payload, event, decoded⟩, waits, reading, id⟩ := h
  refine ⟨⟨payload, getElem?_append_of_some more event, decoded⟩, ?_, ?_, id⟩
  · rw [take_append_of_some more event]
    exact waits
  · rw [take_append_of_some more event]
    exact reading

theorem Responds.lt {k n place : Nat} {q : Request} {r : Response}
    (h : Responds patience t events k n q r place) : place < events.length := by
  obtain ⟨payload, event, _⟩ := h.frame
  exact (List.getElem?_eq_some_iff.mp event).1

/-- A response that has come in by the end of a longer run came in before its last event or is
it. -/
theorem Responds.of_concat {e : Target × LaneEvent} {k n place : Nat} {q : Request} {r : Response}
    (h : Responds patience t (events ++ [e]) k n q r place) :
    Responds patience t events k n q r place ∨ place = events.length := by
  have bound := h.lt
  rw [List.length_append, List.length_singleton] at bound
  by_cases last : place = events.length
  · exact .inr last
  · have inside : place < events.length := by omega
    obtain ⟨frame, waits, reading, id⟩ := h
    rw [List.getElem?_append_left inside] at frame
    rw [List.take_append_of_le_length (Nat.le_of_lt inside)] at waits reading
    exact .inl ⟨frame, waits, reading, id⟩

/-- The response comes in behind the look of the caller for it. -/
def IsLate (patience : Duration) (t : Target) (events : History) (place : Nat) : Prop :=
  ∃ x, ((after patience (events.take place)).lane t).exchange = some x ∧ x.glance ≠ .mail

theorem isLate_append {place : Nat} (bound : place ≤ events.length) (more : History) :
    IsLate patience t (events ++ more) place ↔ IsLate patience t events place := by
  rw [IsLate, IsLate, List.take_append_of_le_length bound]

theorem heard (patience : Duration) (t : Target) (events : History) :
    ∀ {k n place q r}, Responds patience t events k n q r place → (t, .abandoned k) ∉ events →
      ((after patience events).lane t).Heard k n q r (IsLate patience t events place) := by
  refine lane_induction (P := fun events lane => ∀ {k n place q r},
    Responds patience t events k n q r place → (t, .abandoned k) ∉ events →
      lane.Heard k n q r (IsLate patience t events place)) ?_ ?_ ?_ events
  · intro k n place q r h
    exact absurd h.lt (Nat.not_lt_zero _)
  · intro events e other ih k n place q r h kept
    rcases h.of_concat with before | rfl
    · rw [isLate_append (Nat.le_of_lt before.lt)]
      exact ih before fun mem => kept (List.mem_append_left _ mem)
    · obtain ⟨payload, event, _⟩ := h.frame
      rw [List.getElem?_concat_length] at event
      cases event
      exact absurd rfl other
  · intro events e lane' ih move eq k n place q r h kept
    rcases h.of_concat with before | rfl
    · rw [isLate_append (Nat.le_of_lt before.lt)]
      have earlier := ih before fun mem => kept (List.mem_append_left _ mem)
      refine move.heard (wired patience t events) (inTurn patience t events)
        (attempting patience t events) earlier ?_
      rintro rfl
      exact kept (List.mem_append_right _ (List.mem_singleton_self _))
    · obtain ⟨payload, event, decoded⟩ := h.frame
      rw [List.getElem?_concat_length] at event
      cases event
      obtain ⟨x, holds, ticket, request, waits, stage⟩ := h.waits
      obtain ⟨c, entry, reading⟩ := h.reading
      rw [List.take_left] at holds entry
      obtain ⟨c', entry', pending⟩ := listed patience t events x n holds stage waits
      cases entry.symm.trans entry'
      have own : r.id = x.request.id := h.id.trans (congrArg _ request).symm
      rw [← eq, after_here]
      refine .held _ (Lane.step_received holds stage waits entry reading pending decoded own) ticket
        request rfl stage ?_
      by_cases ahead : x.glance = .mail
      · exact .inl ahead
      · refine .inr ⟨x, ?_, ahead⟩
        rw [List.take_left]
        exact holds

theorem finished_append (more : History) {f : Finished}
    (mem : f ∈ ((after patience events).lane t).finished) :
    f ∈ ((after patience (events ++ more)).lane t).finished :=
  lane_induction_from (P := fun _ lane => f ∈ lane.finished) events mem (fun _ _ _ h => h)
    (fun _ _ _ h move _ => move.finished_subset h) more

/-- The call waits on a connection, the frame of its request having gone out, and its caller looks
for a response next. -/
def Looks (patience : Duration) (t : Target) (events : History) (k n : Nat) : Prop :=
  ∃ x, ((after patience events).lane t).exchange = some x ∧ x.ticket = k ∧
    x.stage = .waiting n ∧ x.glance = .mail

theorem looks_of_waiting {k n : Nat}
    (waits : (((after patience events).lane t).exchange.any fun x =>
      x.ticket = k ∧ x.stage = .waiting n ∧ x.glance = .mail) = true) :
    Looks patience t events k n := by
  obtain ⟨x, holds, facts⟩ := (Option.any_eq_true _ _).mp waits
  exact ⟨x, holds, of_decide_eq_true facts⟩

/-- A response comes in while its call waits, and the caller looks for it. -/
def InTime (patience : Duration) (t : Target) (events : History) (k : Nat) (q : Request)
    (r : Response) : Prop :=
  ∃ before expired later n place, events = before ++ (t, .wake expired) :: later ∧
    Responds patience t before k n q r place ∧ Looks patience t before k n ∧
    (t, .abandoned k) ∉ before

/-- A caller that looks for a response that has come in finds it. -/
theorem Looks.found {k n place : Nat} {q : Request} {r : Response}
    (looks : Looks patience t events k n) (responds : Responds patience t events k n q r place)
    (kept : (t, .abandoned k) ∉ events) :
    ∃ x, ((after patience events).lane t).exchange = some x ∧ x.ticket = k ∧ x.request = q ∧
      x.stage = .waiting n ∧ x.glance = .mail ∧ x.mail = some (.ok r) := by
  obtain ⟨x, holds, rfl, waiting, glance⟩ := looks
  have on : x.stage.connection? = some n := by rw [waiting]; rfl
  cases heard patience t events responds kept with
  | held y holds' _ request mail _ =>
    cases holds.symm.trans holds'
    exact ⟨x, holds, rfl, request, waiting, glance, mail⟩
  | decided f mem ticket => exact absurd ticket ((inTurn patience t events).unfinished holds f mem)
  | elsewhere h => exact absurd on (h.apart x holds rfl).1
  | missed h => exact absurd on (h.apart x holds rfl).1

theorem InTime.call {k : Nat} {q : Request} {r : Response} (h : InTime patience t events k q r) :
    ∃ timeout, (callsOn t events)[k]? = some (.send q.command timeout) := by
  obtain ⟨before, expired, later, n, place, rfl, responds, looks, kept⟩ := h
  obtain ⟨x, holds, rfl, rfl, -⟩ := looks.found responds kept
  have call := (accounted patience t before).exchange x holds
  rw [callsOn_append]
  exact ⟨x.timeout, getElem?_append_of_some _ call⟩

/-- A response that arrives in time decides what its call comes to. -/
theorem response_decides {k : Nat} {q : Request} {r : Response} (going : q.command ≠ .halt)
    (h : InTime patience t events k q r) :
    ∃ f ∈ ((after patience events).lane t).finished, f.ticket = k ∧
      f.outcome = Reply.outcome q.command r := by
  obtain ⟨before, expired, later, n, place, rfl, responds, looks, kept⟩ := h
  obtain ⟨x, holds, rfl, rfl, waiting, glance, mail⟩ := looks.found responds kept
  have done : ∃ f ∈ ((after patience (before ++ [(t, .wake expired)])).lane t).finished,
      f.ticket = x.ticket ∧ f.outcome = Reply.conclusion x.request.command r := by
    rw [after_here]
    exact Lane.step_wake holds waiting glance mail
  obtain ⟨f, mem, ticket, outcome⟩ := done
  rw [Reply.conclusion, if_neg going] at outcome
  rw [List.append_cons]
  exact ⟨f, finished_append later mem, ticket, outcome⟩

end Channel

end ClassSwap
