import ClassSwap.Proofs.FrameStream
import ClassSwap.Proofs.ReplyInTime

namespace ClassSwap

open Channel

def Request.unnumbered (q : Request) : Request := { q with id := 0 }

def Response.unnumbered (r : Response) : Response := { r with id := 0 }

def Connection.unnumbered (c : Connection) : Connection := { c with pending := [] }

def Transmission.unnumbered (tx : Transmission) : Transmission :=
  { tx with request := tx.request.unnumbered }

/-- Attempts that differ in the numbers of requests only. -/
structure Exchange.Akin (x y : Exchange) : Prop where
  ticket : y.ticket = x.ticket
  host : y.request.host = x.request.host
  port : y.request.port = x.request.port
  command : y.request.command = x.request.command
  timeout : y.timeout = x.timeout
  reused : y.reused = x.reused
  second : y.second = x.second
  stage : y.stage = x.stage
  glance : y.glance = x.glance
  mail : y.mail.map (Except.map Response.unnumbered) = x.mail.map (Except.map Response.unnumbered)

/-- The limit on frames treats both requests alike: both fit, or they are equally long. -/
def Request.FitAlike (q q' : Request) : Prop :=
  (Frame.payloadOf q'.json).length = (Frame.payloadOf q.json).length ∨
    (Frame.payloadOf q.json).length ≤ Frame.maxPayload ∧
      (Frame.payloadOf q'.json).length ≤ Frame.maxPayload

theorem Request.FitAlike.encode_error {q q' : Request} (fit : q.FitAlike q') (e : CodecError) :
    Frame.encode q'.json = .error e ↔ Frame.encode q.json = .error e := by
  rw [Frame.encode_eq_error_iff, Frame.encode_eq_error_iff]
  rcases fit with equal | ⟨small, small'⟩
  · rw [equal]
  · constructor <;> rintro ⟨large, _⟩ <;> omega

/-- The same happens in two runs. A response answers requests whose numbers stand in the same places
of `numbers`. -/
inductive LaneEvent.Alike (numbers : List (RequestId × RequestId)) : LaneEvent → LaneEvent → Prop
  | same (e : LaneEvent) (other : ∀ n payload, e ≠ .received n payload) : Alike numbers e e
  | reply (n : Nat) (payload payload' : Bytes) (r r' : Response)
      (decoded : Frame.decode Response.read payload = .ok r)
      (decoded' : Frame.decode Response.read payload' = .ok r')
      (content : r'.unnumbered = r.unnumbered)
      (answers : ∀ pair ∈ numbers, pair.1 = r.id ↔ pair.2 = r'.id) :
      Alike numbers (.received n payload) (.received n payload')
  | unreadable (n : Nat) (payload payload' : Bytes) (e : CodecError)
      (decoded : Frame.decode Response.read payload = .error e)
      (decoded' : Frame.decode Response.read payload' = .error e) :
      Alike numbers (.received n payload) (.received n payload')

namespace Lane

/-- Lanes that differ in the numbers of requests only. -/
structure Akin (lane lane' : Lane) : Prop where
  standing : lane'.standing = lane.standing
  calls : lane'.calls = lane.calls
  queue : lane'.queue = lane.queue
  exchange : Option.Rel Exchange.Akin lane.exchange lane'.exchange
  slot : lane'.slot = lane.slot
  connections : lane'.connections.map Connection.unnumbered =
    lane.connections.map Connection.unnumbered
  sent : lane'.sent.map Transmission.unnumbered = lane.sent.map Transmission.unnumbered
  lapses : lane'.lapses = lane.lapses
  finished : lane'.finished = lane.finished

variable {target : Target} {patience : Duration} {id id' : RequestId} {lane lane' : Lane}
  {x y : Exchange} {n : Nat}

theorem map_modify {α β : Type} {f : α → α} {g : α → β} {h : β → β}
    (commutes : ∀ a, g (f a) = h (g a)) (n : Nat) (as : List α) :
    (as.modify n f).map g = (as.map g).modify n h := by
  apply List.ext_getElem?
  intro i
  rw [List.getElem?_map, List.getElem?_modify, List.getElem?_modify, List.getElem?_map]
  cases as[i]? with
  | none => rfl
  | some a => by_cases here : n = i <;> simp [here, commutes]

theorem map_modify_self {α β : Type} {f : α → α} {g : α → β} (kept : ∀ a, g (f a) = g a) (n : Nat)
    (as : List α) : (as.modify n f).map g = as.map g := by
  rw [map_modify (h := id) kept]
  exact List.modify_id _ _

theorem isOpen_eq (lane : Lane) (n : Nat) :
    lane.isOpen n =
      (((lane.connections.map Connection.unnumbered)[n]?).map fun c => !c.closed).getD false := by
  rw [isOpen, List.getElem?_map]
  cases lane.connections[n]? <;> rfl

theorem closing_unnumbered (slot : Option Nat) (connections : List Connection) :
    (closing slot connections).map Connection.unnumbered =
      closing slot (connections.map Connection.unnumbered) := by
  cases slot with
  | none => rfl
  | some n =>
    exact map_modify (f := fun c => { c with closed := true }) (g := Connection.unnumbered)
      (h := fun c => { c with closed := true }) (fun _ => rfl) n connections

theorem Akin.isOpen (h : Akin lane lane') (n : Nat) : lane'.isOpen n = lane.isOpen n := by
  rw [isOpen_eq, isOpen_eq, h.connections]

theorem Akin.usable (h : Akin lane lane') : lane'.usable? = lane.usable? := by
  rw [usable?, usable?, h.slot, funext h.isOpen]

theorem Akin.entry (h : Akin lane lane') (n : Nat) :
    (lane'.connections[n]?).map Connection.unnumbered =
      (lane.connections[n]?).map Connection.unnumbered := by
  rw [← List.getElem?_map, ← List.getElem?_map, h.connections]

theorem Akin.closed (h : Akin lane lane') :
    (closing lane'.slot lane'.connections).map Connection.unnumbered =
      (closing lane.slot lane.connections).map Connection.unnumbered := by
  rw [closing_unnumbered, closing_unnumbered, h.slot, h.connections]

theorem Akin.note (h : Akin lane lane') (level : LogLevel) (message : String)
    (fields fields' : List (String × LogValue)) :
    Akin (lane.note level message fields) (lane'.note level message fields') :=
  { h with }

/-- What awaits a response on a connection may change in any way. -/
theorem Akin.repend (h : Akin lane lane') {f g : Connection → Connection}
    (kept : ∀ c, (f c).unnumbered = c.unnumbered) (kept' : ∀ c, (g c).unnumbered = c.unnumbered)
    (n : Nat) : Akin (lane.update n f) (lane'.update n g) :=
  { h with
    connections := by
      show (lane'.connections.modify n g).map _ = (lane.connections.modify n f).map _
      rw [map_modify_self kept, map_modify_self kept', h.connections] }

theorem Akin.update (h : Akin lane lane') {f : Connection → Connection}
    (blind : ∀ c, (f c).unnumbered = (f c.unnumbered).unnumbered) (n : Nat) :
    Akin (lane.update n f) (lane'.update n f) :=
  { h with
    connections := by
      show (lane'.connections.modify n f).map _ = (lane.connections.modify n f).map _
      rw [map_modify (h := fun c => (f c).unnumbered) blind,
        map_modify (h := fun c => (f c).unnumbered) blind, h.connections] }

theorem Akin.withdraw (h : Akin lane lane') (n : Nat) (id id' : RequestId) :
    Akin (lane.withdraw n id) (lane'.withdraw n id') :=
  h.repend (f := fun c => { c with pending := c.pending.erase id })
    (g := fun c => { c with pending := c.pending.erase id' }) (fun _ => rfl) (fun _ => rfl) n

theorem Akin.release (h : Akin lane lane') : Akin lane.release lane'.release := by
  rw [release_eq, release_eq]
  exact { h with connections := h.closed, slot := rfl }

theorem Akin.learn (h : Akin lane lane') (target : Target) (f : Standing → Standing) :
    Akin (lane.learn target f) (lane'.learn target f) := by
  unfold Lane.learn
  rw [h.standing]
  cases lane.standing with
  | none => exact h.note _ _ _ _
  | some status => exact { h with standing := rfl }

theorem Akin.quit (h : Akin lane lane') (target : Target) :
    Akin (lane.quit target) (lane'.quit target) :=
  h.release.learn target Standing.leave

theorem Akin.finish (h : Akin lane lane') (ticket : Nat) (operation : Operation)
    (outcome : Outcome) :
    Akin (lane.finish ticket operation outcome) (lane'.finish ticket operation outcome) :=
  { h with exchange := .none, finished := congrArg (· ++ _) h.finished }

theorem Akin.conclude (h : Akin lane lane') (same : x.Akin y) (outcome : Outcome) :
    Akin (lane.conclude x outcome) (lane'.conclude y outcome) := by
  unfold Lane.conclude
  rw [same.ticket, same.timeout, same.command]
  exact h.finish _ _ _

theorem Akin.holding (h : Akin lane lane') (same : x.Akin y) :
    Akin { lane with exchange := some x } { lane' with exchange := some y } :=
  { h with exchange := .some same }

theorem Akin.moveTo (h : Akin lane lane') (same : x.Akin y) (stage : Stage) :
    Akin (lane.moveTo x stage) (lane'.moveTo y stage) :=
  h.holding { same with stage := rfl }

theorem Akin.lookAt (h : Akin lane lane') (same : x.Akin y) (glance : Glance) :
    Akin (lane.lookAt x glance) (lane'.lookAt y glance) :=
  h.holding { same with glance := rfl }

theorem Akin.fail (h : Akin lane lane') (same : x.Akin y) (e : ChannelError) (sent : Bool) :
    Akin (fail target lane x e sent) (fail target lane' y e sent) := by
  have again : mayRepeat y e sent = mayRepeat x e sent := by
    rw [mayRepeat, mayRepeat, same.reused, same.second, same.command]
  have lapsed : Akin { lane with lapses := lane.lapses ++ [⟨x.ticket, e, sent⟩] }
      { lane' with lapses := lane'.lapses ++ [⟨y.ticket, e, sent⟩] } :=
    { h with lapses := by rw [h.lapses, same.ticket] }
  simp only [Lane.fail, same.command, again]
  split
  next halt => exact ((lapsed.note _ _ _ _).quit target).conclude same _
  next going =>
    split
    next repeats =>
      refine (lapsed.note _ _ _ _).release.holding ?_
      exact { same with second := rfl, stage := rfl, mail := rfl, glance := rfl }
    next once =>
      split
      next loss => exact ((lapsed.release.learn target _).note _ _ _ _).conclude same _
      next => exact (lapsed.note _ _ _ _).conclude same _

theorem Akin.settle {r r' : Response} (h : Akin lane lane') (same : x.Akin y)
    (content : r'.unnumbered = r.unnumbered) :
    Akin (settle target lane x r) (settle target lane' y r') := by
  have status : r'.isOk = r.isOk := by
    show r'.unnumbered.isOk = r.unnumbered.isOk
    rw [content]
  have verdict : Reply.judge x.request.command r' = Reply.judge x.request.command r := by
    show Reply.judge x.request.command r'.unnumbered = Reply.judge x.request.command r.unnumbered
    rw [content]
  simp only [Lane.settle, same.command, status, verdict]
  split
  next halt =>
    split
    next => exact ((h.note _ _ _ _).quit target).conclude same _
    next => exact ((h.note _ _ _ _).quit target).conclude same _
  next going =>
    split
    next e => exact h.conclude same _
    next reply => exact (h.learn target _).conclude same _

theorem Akin.call (h : Akin lane lane') (target : Target) (operation : Operation) :
    Akin (call target lane operation) (call target lane' operation) := by
  unfold Lane.call
  rw [h.calls]
  split
  next => exact { h with calls := rfl, finished := congrArg (· ++ _) h.finished }
  next => exact { h with calls := rfl, queue := congrArg (· ++ _) h.queue }

theorem Akin.start (h : Akin lane lane') (ticket : Nat) (command : Command) (timeout : Duration)
    (endpoint : Endpoint) :
    Akin (start target id lane ticket command timeout endpoint)
      (start target id' lane' ticket command timeout endpoint) := by
  unfold Lane.start
  have reused : lane'.usable?.isSome = lane.usable?.isSome := congrArg Option.isSome h.usable
  split
  next => exact h.holding ⟨rfl, rfl, rfl, rfl, rfl, reused, rfl, rfl, rfl, rfl⟩
  next => exact (h.note _ _ _ _).holding ⟨rfl, rfl, rfl, rfl, rfl, reused, rfl, rfl, rfl, rfl⟩

theorem Akin.held_or_free (h : Akin lane lane') :
    lane.exchange = none ∧ lane'.exchange = none ∨
      ∃ x y, lane.exchange = some x ∧ lane'.exchange = some y ∧ x.Akin y := by
  have related := h.exchange
  generalize lane.exchange = own at related
  generalize lane'.exchange = other at related
  cases related with
  | none => exact .inl ⟨rfl, rfl⟩
  | some same => exact .inr ⟨_, _, rfl, rfl, same⟩

theorem Akin.grant (h : Akin lane lane') :
    Akin (grant target id lane) (grant target id' lane') := by
  unfold Lane.grant
  rcases h.held_or_free with ⟨free, free'⟩ | ⟨x, y, held, held', _⟩
  case inr =>
    rw [held, held']
    exact h
  case inl =>
    rw [free, free', h.queue]
    cases lane.queue with
    | nil => exact h
    | cons first rest =>
      obtain ⟨ticket, operation⟩ := first
      have left : Akin { lane with queue := rest, exchange := none }
          { lane' with queue := rest, exchange := none } :=
        { h with queue := rfl, exchange := .none }
      cases operation with
      | attach endpoint =>
        have ready := left.release.note .info "attached"
          [("target", .text target.text), ("endpoint", .text endpoint.text)]
          [("target", .text target.text), ("endpoint", .text endpoint.text)]
        refine Akin.finish ?_ _ _ _
        exact { ready with standing := rfl }
      | send command timeout =>
        have known : lane'.standing.endpoint? = lane.standing.endpoint? := by rw [h.standing]
        simp only [known]
        split
        next endpoint => exact left.start _ _ _ _
        next =>
          split
          next => exact ((left.note _ _ _ _).quit target).finish _ _ _
          next => exact left.finish _ _ _

theorem Akin.proceed (h : Akin lane lane') {f f' : Exchange → Lane}
    (steps : ∀ x y, lane.exchange = some x → lane'.exchange = some y → x.Akin y →
      Akin (f x) (f' y)) :
    Akin (lane.proceed f) (lane'.proceed f') := by
  unfold Lane.proceed
  rcases h.held_or_free with ⟨free, free'⟩ | ⟨x, y, held, held', same⟩
  · rw [free, free']
    exact h
  · rw [held, held']
    exact steps x y held held' same

theorem Akin.choose (h : Akin lane lane') (same : x.Akin y) :
    Akin (choose lane x) (choose lane' y) := by
  unfold Lane.choose
  rw [same.stage, h.usable]
  split
  next =>
    split
    next n => exact h.moveTo same _
    next => exact h.moveTo same _
  next => exact h

theorem Akin.dialed (h : Akin lane lane') (same : x.Akin y) (result : Dialing) :
    Akin (dialed target patience lane x result) (dialed target patience lane' y result) := by
  have count : lane'.connections.length = lane.connections.length := by
    have lengths := congrArg List.length h.connections
    rwa [List.length_map, List.length_map] at lengths
  simp only [Lane.dialed, same.stage, same.host, same.port, same.command]
  split
  next =>
    cases result with
    | connected =>
      rw [count]
      refine Akin.moveTo ?_ same _
      exact { h with
        slot := rfl
        connections := by
          show (lane'.connections ++ [_]).map _ = (lane.connections ++ [_]).map _
          rw [List.map_append, List.map_append, h.connections] }
    | refused | failed | expired => exact h.fail same _ _
  next => exact h

theorem Akin.enter (h : Akin lane lane') (same : x.Akin y) :
    Akin (enter target lane x) (enter target lane' y) := by
  unfold Lane.enter
  rw [same.stage]
  split
  next n _ =>
    rw [h.isOpen]
    split
    next => exact h.moveTo same _
    next => exact h.fail same _ _
  next => exact h

theorem Akin.register (h : Akin lane lane') (same : x.Akin y) :
    Akin (register lane x) (register lane' y) := by
  unfold Lane.register
  rw [same.stage]
  split
  next n _ =>
    refine Akin.moveTo ?_ same _
    exact h.repend (f := fun c => { c with pending := c.pending ++ [x.request.id] })
      (g := fun c => { c with pending := c.pending ++ [y.request.id] }) (fun _ => rfl)
      (fun _ => rfl) n
  next => exact h

theorem Akin.wrote (h : Akin lane lane') (same : x.Akin y) (result : Writing)
    (fit : ∀ n, x.stage = .writing n → x.request.FitAlike y.request) :
    Akin (wrote target lane x result) (wrote target lane' y result) := by
  unfold Lane.wrote
  rw [same.stage]
  split
  next n stage =>
    have refused := (fit n stage).encode_error
    cases made : Frame.encode x.request.json with
    | error e =>
      rw [(refused e).mpr made]
      exact (h.withdraw n _ _).fail same _ _
    | ok frame =>
      cases made' : Frame.encode y.request.json with
      | error e =>
        rw [(refused e).mp made'] at made
        cases made
      | ok frame' =>
        cases result with
        | failed text => exact (h.withdraw n _ _).fail same _ _
        | written =>
          refine Akin.moveTo ?_ same _
          refine { h with sent := ?_ }
          have request : y.request.unnumbered = x.request.unnumbered := by
            simp only [Request.unnumbered, same.host, same.port, same.command]
          simp only [List.map_append, h.sent, List.map_cons, List.map_nil,
            Transmission.unnumbered, same.ticket, request]
  next => exact h

theorem Akin.wake_mail (h : Akin lane lane') (same : x.Akin y) :
    Akin
      (match x.mail with
        | some (.ok r) => Lane.settle target lane x r
        | some (.error e) => Lane.fail target lane x e true
        | none => lane.lookAt x .clock)
      (match y.mail with
        | some (.ok r) => Lane.settle target lane' y r
        | some (.error e) => Lane.fail target lane' y e true
        | none => lane'.lookAt y .clock) := by
  have mail := same.mail
  cases own : x.mail with
  | none =>
    rw [own] at mail
    rw [Option.map_eq_none_iff.mp mail]
    exact h.lookAt same _
  | some answer =>
    rw [own] at mail
    obtain ⟨answer', other, content⟩ := Option.map_eq_some_iff.mp mail
    rw [other]
    cases answer with
    | error e =>
      cases answer' with
      | error e' =>
        cases content
        exact h.fail same _ _
      | ok r' => cases content
    | ok r =>
      cases answer' with
      | error e' => cases content
      | ok r' => exact h.settle same (Except.ok.inj content)

theorem Akin.wake (h : Akin lane lane') (same : x.Akin y) (expired : Bool) :
    Akin (wake target lane x expired) (wake target lane' y expired) := by
  unfold Lane.wake
  rw [same.stage]
  split
  next n _ =>
    rw [same.glance]
    cases x.glance with
    | mail => exact h.wake_mail same
    | clock =>
      simp only [same.command, same.timeout]
      split
      next => exact (h.withdraw n _ _).fail same _ _
      next => exact h.lookAt same _
    | connection =>
      simp only [h.isOpen]
      split
      next => exact h.lookAt same _
      next => exact (h.withdraw n _ _).fail same _ _
  next => exact h

theorem Akin.abandon (h : Akin lane lane') (ticket : Nat) :
    Akin (lane.abandon ticket) (lane'.abandon ticket) := by
  have exchange : Option.Rel Exchange.Akin (lane.exchange.filter (·.ticket ≠ ticket))
      (lane'.exchange.filter (·.ticket ≠ ticket)) := by
    rcases h.held_or_free with ⟨free, free'⟩ | ⟨x, y, held, held', same⟩
    · rw [free, free']
      exact .none
    · rw [held, held', Option.filter_some, Option.filter_some, same.ticket]
      split
      next => exact .some same
      next => exact .none
  exact { h with exchange, queue := congrArg (List.filter _) h.queue }

theorem Akin.posted (h : Akin lane lane') {ids ids' : List RequestId}
    {m m' : Except ChannelError Response}
    (content : m'.map Response.unnumbered = m.map Response.unnumbered)
    (named : ∀ x y, lane.exchange = some x → lane'.exchange = some y →
      (x.stage = .writing n ∨ x.stage = .waiting n) → x.mail = none → y.mail = none →
      (y.request.id ∈ ids' ↔ x.request.id ∈ ids)) :
    Option.Rel Exchange.Akin (posted n ids m lane.exchange) (posted n ids' m' lane'.exchange) := by
  rcases h.held_or_free with ⟨free, free'⟩ | ⟨x, y, held, held', same⟩
  · rw [free, free']
    exact .none
  · rw [held, held', Lane.posted, Lane.posted, Option.map_some, Option.map_some]
    refine .some ?_
    have empty : y.mail = none ↔ x.mail = none := by
      rw [← Option.map_eq_none_iff (f := Except.map Response.unnumbered), same.mail,
        Option.map_eq_none_iff]
    have agree : (y.request.id ∈ ids' ∧ (y.stage = .writing n ∨ y.stage = .waiting n) ∧
        y.mail = none) ↔
        (x.request.id ∈ ids ∧ (x.stage = .writing n ∨ x.stage = .waiting n) ∧ x.mail = none) := by
      rw [same.stage, empty]
      constructor
      · rintro ⟨mem, stage, free⟩
        exact ⟨(named x y held held' stage free (empty.mpr free)).mp mem, stage, free⟩
      · rintro ⟨mem, stage, free⟩
        exact ⟨(named x y held held' stage free (empty.mpr free)).mpr mem, stage, free⟩
    by_cases awaits : x.request.id ∈ ids ∧ (x.stage = .writing n ∨ x.stage = .waiting n) ∧
        x.mail = none
    · rw [if_pos awaits, if_pos (agree.mpr awaits)]
      exact { same with mail := congrArg some content }
    · rw [if_neg awaits, if_neg (agree.not.mpr awaits)]
      exact same

theorem Akin.attend (h : Akin lane lane') {state : ReaderState} {f f' : Connection → Lane}
    (steps : ∀ c c', lane.connections[n]? = some c → lane'.connections[n]? = some c' →
      c'.unnumbered = c.unnumbered → Akin (f c) (f' c')) :
    Akin (lane.attend n state f) (lane'.attend n state f') := by
  have same := h.entry n
  unfold Lane.attend
  cases entry : lane.connections[n]? with
  | none =>
    rw [entry] at same
    rw [Option.map_eq_none_iff.mp same]
    exact h
  | some c =>
    rw [entry] at same
    obtain ⟨c', entry', content⟩ := Option.map_eq_some_iff.mp same
    have reader : c'.reader = c.reader := by
      show c'.unnumbered.reader = c.unnumbered.reader
      rw [content]
    rw [entry']
    simp only [reader]
    split
    next => exact steps c c' entry entry' content
    next => exact h

/-- The response that an attempt awaits finds its request with the connection. -/
theorem Listed.posted_eq (listed : Listed lane) {c : Connection} {number : RequestId}
    (entry : lane.connections[n]? = some c) (unknown : number ∉ c.pending)
    (m : Except ChannelError Response) :
    posted n [number] m lane.exchange = lane.exchange := by
  cases held : lane.exchange with
  | none => rfl
  | some x =>
    rw [posted, Option.map_some, if_neg]
    rintro ⟨own, stage, free⟩
    obtain ⟨c', entry', pending⟩ := listed x n held stage free
    cases entry.symm.trans entry'
    exact unknown (List.mem_singleton.mp own ▸ pending)

/-- A response is handed to the attempt that awaits it, and changes nothing else but what awaits a
response on the connection. -/
theorem Listed.received_eq (listed : Listed lane) {c : Connection} {payload : Bytes} {r : Response}
    (entry : lane.connections[n]? = some c)
    (decoded : Frame.decode Response.read payload = .ok r) :
    ∃ connections log, received lane n c payload =
        { lane with connections, log, exchange := posted n [r.id] (.ok r) lane.exchange } ∧
      connections.map Connection.unnumbered = lane.connections.map Connection.unnumbered := by
  simp only [received, decoded]
  split
  next awaited =>
    rw [deliver_eq]
    refine ⟨_, lane.log, rfl, ?_⟩
    exact map_modify_self (f := fun c => { c with pending := c.pending.erase r.id })
      (g := Connection.unnumbered) (fun _ => rfl) n lane.connections
  next unknown =>
    have absent : r.id ∉ c.pending := fun mem => unknown (List.contains_iff_mem.mpr mem)
    rw [listed.posted_eq entry absent]
    exact ⟨lane.connections, _, rfl, rfl⟩

theorem Akin.told (h : Akin lane lane') (listed : Listed lane) (listed' : Listed lane')
    {c c' : Connection} (entry : lane.connections[n]? = some c)
    (entry' : lane'.connections[n]? = some c') (e : ChannelError) :
    Option.Rel Exchange.Akin (Lane.posted n c.pending (.error e) lane.exchange)
      (Lane.posted n c'.pending (.error e) lane'.exchange) := by
  refine h.posted rfl ?_
  intro x y held held' stage free free'
  have same := h.exchange
  rw [held, held'] at same
  cases same with
  | some same =>
    obtain ⟨d, known, pending⟩ := listed x n held stage free
    obtain ⟨d', known', pending'⟩ := listed' y n held' (same.stage ▸ stage) free'
    cases entry.symm.trans known
    cases entry'.symm.trans known'
    exact iff_of_true pending' pending

theorem Akin.deliverAll (h : Akin lane lane') {c c' : Connection} {e : ChannelError}
    (told : Option.Rel Exchange.Akin (Lane.posted n c.pending (.error e) lane.exchange)
      (Lane.posted n c'.pending (.error e) lane'.exchange)) :
    Akin (lane.deliverAll n c e) (lane'.deliverAll n c' e) := by
  have emptied := h.repend (f := fun c => { c with pending := [] })
    (g := fun c => { c with pending := [] }) (fun _ => rfl) (fun _ => rfl) n
  rw [deliverAll_eq, deliverAll_eq]
  exact { emptied with exchange := told }

theorem Akin.received (h : Akin lane lane') (listed : Listed lane) (listed' : Listed lane')
    {numbers : List (RequestId × RequestId)} {payload payload' : Bytes} {c c' : Connection}
    (alike : LaneEvent.Alike numbers (.received n payload) (.received n payload'))
    (paired : ∀ x y, lane.exchange = some x → lane'.exchange = some y →
      (x.stage = .writing n ∨ x.stage = .waiting n) → (x.request.id, y.request.id) ∈ numbers)
    (entry : lane.connections[n]? = some c) (entry' : lane'.connections[n]? = some c') :
    Akin (received lane n c payload) (received lane' n c' payload') := by
  cases alike with
  | same _ other => exact absurd rfl (other n payload)
  | reply _ _ _ r r' decoded decoded' content answers =>
    obtain ⟨connections, log, eq, kept⟩ := listed.received_eq entry decoded
    obtain ⟨connections', log', eq', kept'⟩ := listed'.received_eq entry' decoded'
    rw [eq, eq']
    have told : Option.Rel Exchange.Akin (Lane.posted n [r.id] (.ok r) lane.exchange)
        (Lane.posted n [r'.id] (.ok r') lane'.exchange) := by
      refine h.posted (congrArg Except.ok content) ?_
      intro x y held held' stage _ _
      rw [List.mem_singleton, List.mem_singleton]
      exact (answers _ (paired x y held held' stage)).symm
    exact { h with exchange := told, connections := (kept'.trans h.connections).trans kept.symm }
  | unreadable _ _ _ e decoded decoded' =>
    unfold Lane.received
    rw [decoded, decoded']
    exact (h.note _ _ _ _).deliverAll (h.told listed listed' entry entry' _)

theorem Akin.ended (h : Akin lane lane') {c c' : Connection}
    (content : c'.unnumbered = c.unnumbered) (ending : Ending) :
    Akin (ended lane n c ending) (ended lane' n c' ending) := by
  have closed : c'.closed = c.closed := by
    show c'.unnumbered.closed = c.unnumbered.closed
    rw [content]
  have stopped := h.update (f := fun c => { c with closed := true, reader := .stopping })
    (fun _ => rfl) n
  cases ending with
  | closedByAgent => exact stopped.note _ _ _ _
  | broken e => exact stopped.note _ _ _ _
  | closedHere =>
    simp only [Lane.ended, closed]
    split
    next => exact stopped
    next => exact h

theorem Akin.drained (h : Akin lane lane') (listed : Listed lane) (listed' : Listed lane')
    {c c' : Connection} (entry : lane.connections[n]? = some c)
    (entry' : lane'.connections[n]? = some c') :
    Akin (drained lane n c) (drained lane' n c') := by
  have stopped := h.update (f := fun c => { c with reader := .stopped }) (fun _ => rfl) n
  exact stopped.deliverAll (h.told listed listed' entry entry' _)

def framing (lane : Lane) (e : LaneEvent) : List Request :=
  match e, lane.exchange with
  | .wrote _, some x =>
    match x.stage with
    | .writing _ => [x.request]
    | _ => []
  | _, _ => []

theorem framing_writing (held : lane.exchange = some x) (stage : x.stage = .writing n)
    (result : Writing) : lane.framing (.wrote result) = [x.request] := by
  simp only [framing, held, stage]

/-- Lanes that differ in numbers only do so after the same has happened to both. -/
theorem Akin.step (h : Akin lane lane') (listed : Listed lane) (listed' : Listed lane')
    {numbers : List (RequestId × RequestId)} {e e' : LaneEvent}
    (alike : LaneEvent.Alike numbers e e')
    (paired : ∀ x y n, lane.exchange = some x → lane'.exchange = some y →
      (x.stage = .writing n ∨ x.stage = .waiting n) → (x.request.id, y.request.id) ∈ numbers)
    (fit : ∀ pair ∈ (lane.framing e).zip (lane'.framing e'), pair.1.FitAlike pair.2) :
    Akin (lane.step target patience id e) (lane'.step target patience id' e') := by
  have received (n : Nat) (payload payload' : Bytes)
      (alike : LaneEvent.Alike numbers (.received n payload) (.received n payload')) :
      Akin (lane.step target patience id (.received n payload))
        (lane'.step target patience id' (.received n payload')) :=
    h.attend fun c c' entry entry' _ =>
      h.received listed listed' alike (fun x y => paired x y n) entry entry'
  cases alike with
  | reply n payload payload' r r' decoded decoded' content answers =>
    exact received n _ _ (.reply n payload payload' r r' decoded decoded' content answers)
  | unreadable n payload payload' e decoded decoded' =>
    exact received n _ _ (.unreadable n payload payload' e decoded decoded')
  | same e other =>
    cases e with
    | call operation => exact h.call target operation
    | grant => exact h.grant
    | choose => exact h.proceed fun _ _ _ _ same => h.choose same
    | dialed result => exact h.proceed fun _ _ _ _ same => h.dialed same result
    | enter => exact h.proceed fun _ _ _ _ same => h.enter same
    | register => exact h.proceed fun _ _ _ _ same => h.register same
    | wrote result =>
      refine h.proceed fun x y held held' same => h.wrote same result ?_
      intro n stage
      apply fit (x.request, y.request)
      rw [framing_writing held stage, framing_writing held' (same.stage.trans stage)]
      exact List.mem_singleton_self _
    | wake expired => exact h.proceed fun _ _ _ _ same => h.wake same expired
    | received n payload => exact absurd rfl (other n payload)
    | ended n ending => exact h.attend fun _ _ _ _ content => h.ended content ending
    | drained n =>
      exact h.attend fun _ _ entry entry' _ => h.drained listed listed' entry entry'
    | abandoned ticket => exact h.abandon ticket

end Lane

end ClassSwap
