import ClassSwap.Channel

namespace ClassSwap

namespace Lane

/-- The call that comes in with an event, if one does. -/
def incoming : LaneEvent → List Operation
  | .call operation => [operation]
  | _ => []

/-- The ticket of the call that gets the lane with an event, if one does. -/
def turn (lane : Lane) : LaneEvent → List Nat
  | .grant =>
    match lane.exchange, lane.queue with
    | none, (ticket, _) :: _ => [ticket]
    | _, _ => []
  | _ => []

/-- The connections once the one in the slot has been closed. -/
def closing (slot : Option Nat) (connections : List Connection) : List Connection :=
  match slot with
  | some n => connections.modify n fun c => { c with closed := true }
  | none => connections

/-- The connections once a request has been withdrawn from one of them. -/
def withdrawn (n : Nat) (id : RequestId) (connections : List Connection) : List Connection :=
  connections.modify n fun c => { c with pending := c.pending.erase id }

/-- The exchange once something has been handed to those who await `ids` on a connection; only the
first thing counts. -/
def posted (n : Nat) (ids : List RequestId) (mail : Except ChannelError Response)
    (exchange : Option Exchange) : Option Exchange :=
  exchange.map fun x =>
    if x.request.id ∈ ids ∧ (x.stage = .writing n ∨ x.stage = .waiting n) ∧ x.mail = none then
      { x with mail := some mail }
    else x

/-- How an attempt of the call that holds the lane fails: by which event, with which error, whether
after its frame was handed to the socket, and what the connections are then. -/
inductive Snag (patience : Duration) (lane : Lane) (x : Exchange) :
    LaneEvent → ChannelError → Bool → List Connection → Prop
  | refused (stage : x.stage = .dialing) :
      Snag patience lane x (.dialed .refused)
        (.connectionRefused ⟨x.request.host, x.request.port⟩) false lane.connections
  | unreachable (text : String) (stage : x.stage = .dialing) :
      Snag patience lane x (.dialed (.failed text)) (.io text) false lane.connections
  | slow (stage : x.stage = .dialing) :
      Snag patience lane x (.dialed .expired) (.timeout x.request.command.action patience) false
        lane.connections
  | shut (n : Nat) (stage : x.stage = .entering n) (closed : lane.isOpen n = false) :
      Snag patience lane x .enter .connectionClosed false lane.connections
  | oversized (n : Nat) (result : Writing) (e : CodecError) (stage : x.stage = .writing n)
      (size : Frame.encode x.request.json = .error e) :
      Snag patience lane x (.wrote result) (.ofCodec e) false
        (withdrawn n x.request.id lane.connections)
  | unwritten (n : Nat) (text : String) (stage : x.stage = .writing n) :
      Snag patience lane x (.wrote (.failed text)) (.io text) false
        (withdrawn n x.request.id lane.connections)
  | told (n : Nat) (expired : Bool) (e : ChannelError) (stage : x.stage = .waiting n)
      (mail : x.mail = some (.error e)) (glance : x.glance = .mail) :
      Snag patience lane x (.wake expired) e true lane.connections
  | overdue (n : Nat) (stage : x.stage = .waiting n) (glance : x.glance = .clock) :
      Snag patience lane x (.wake true) (.timeout x.request.command.action x.timeout) true
        (withdrawn n x.request.id lane.connections)
  | lost (n : Nat) {expired : Bool} (stage : x.stage = .waiting n)
      (glance : x.glance = .connection) (closed : lane.isOpen n = false) :
      Snag patience lane x (.wake expired) .connectionClosed true
        (withdrawn n x.request.id lane.connections)

/-- How the call that holds the lane goes on without any trace outside of it. -/
inductive Advance (lane : Lane) (x : Exchange) : LaneEvent → Stage → Glance → Prop
  | keep (n : Nat) (stage : x.stage = .choosing) (usable : lane.usable? = some n) :
      Advance lane x .choose (.entering n) x.glance
  | dial (stage : x.stage = .choosing) (usable : lane.usable? = none) :
      Advance lane x .choose .dialing x.glance
  | pass (n : Nat) (stage : x.stage = .entering n) (usable : lane.isOpen n = true) :
      Advance lane x .enter (.registering n) x.glance
  | unanswered (n : Nat) (expired : Bool) (stage : x.stage = .waiting n)
      (glance : x.glance = .mail) (mail : x.mail = none) :
      Advance lane x (.wake expired) x.stage .clock
  | early (n : Nat) (stage : x.stage = .waiting n) (glance : x.glance = .clock) :
      Advance lane x (.wake false) x.stage .connection
  | linked (n : Nat) (expired : Bool) (stage : x.stage = .waiting n)
      (glance : x.glance = .connection) (usable : lane.isOpen n = true) :
      Advance lane x (.wake expired) x.stage .mail

/-- What a reader hands over: by which event, on which connection, to those who await which
requests, and what the connections are then. -/
inductive Handing (lane : Lane) :
    LaneEvent → Nat → List RequestId → Except ChannelError Response → List Connection → Prop
  | reply (n : Nat) (c : Connection) (payload : Bytes) (r : Response)
      (entry : lane.connections[n]? = some c) (reading : c.reader = .reading)
      (decoded : Frame.decode Response.read payload = .ok r) (awaited : r.id ∈ c.pending) :
      Handing lane (.received n payload) n [r.id] (.ok r) (withdrawn n r.id lane.connections)
  | unreadable (n : Nat) (c : Connection) (payload : Bytes) (e : CodecError)
      (entry : lane.connections[n]? = some c) (reading : c.reader = .reading)
      (decoded : Frame.decode Response.read payload = .error e) :
      Handing lane (.received n payload) n c.pending
        (.error (.protocolMismatch ("undecodable reply: " ++ e.message)))
        (lane.connections.modify n fun c => { c with pending := [] })
  | gone (n : Nat) (c : Connection) (entry : lane.connections[n]? = some c)
      (stopping : c.reader = .stopping) :
      Handing lane (.drained n) n c.pending (.error .connectionClosed)
        ((lane.connections.modify n fun c => { c with reader := .stopped }).modify n
          fun c => { c with pending := [] })

inductive Move (target : Target) (patience : Duration) (id : RequestId) (lane : Lane) :
    LaneEvent → Lane → Prop
  | idle (e : LaneEvent) (log : List LogEvent) (quiet : incoming e = [])
      (still : turn lane e = []) :
      Move target patience id lane e { lane with log }
  | refused (operation : Operation) (fs : target.isFileSystem = true) :
      Move target patience id lane (.call operation)
        { lane with
          calls := lane.calls + 1
          finished := lane.finished ++ [⟨lane.calls, operation, .failed (.detached target)⟩] }
  | queued (operation : Operation) (fs : target.isFileSystem = false) :
      Move target patience id lane (.call operation)
        { lane with calls := lane.calls + 1, queue := lane.queue ++ [(lane.calls, operation)] }
  | attached (ticket : Nat) (endpoint : Endpoint) (rest : List (Nat × Operation))
      (log : List LogEvent) (free : lane.exchange = none)
      (first : lane.queue = (ticket, .attach endpoint) :: rest) :
      Move target patience id lane .grant
        { lane with
          queue := rest
          standing := Standing.attached endpoint
          connections := closing lane.slot lane.connections
          slot := none
          exchange := none
          finished := lane.finished ++ [⟨ticket, .attach endpoint, .attached⟩]
          log }
  | started (ticket : Nat) (command : Command) (timeout : Duration) (endpoint : Endpoint)
      (rest : List (Nat × Operation)) (log : List LogEvent) (free : lane.exchange = none)
      (first : lane.queue = (ticket, .send command timeout) :: rest)
      (known : lane.standing.endpoint? = some endpoint) :
      Move target patience id lane .grant
        { lane with
          queue := rest
          exchange := some
            { ticket
              request := ⟨id, endpoint.host, endpoint.port, command⟩
              timeout
              reused := lane.usable?.isSome }
          log }
  | detached (ticket : Nat) (command : Command) (timeout : Duration)
      (rest : List (Nat × Operation)) (free : lane.exchange = none)
      (first : lane.queue = (ticket, .send command timeout) :: rest)
      (unknown : lane.standing.endpoint? = none) (going : command ≠ .halt) :
      Move target patience id lane .grant
        { lane with
          queue := rest
          exchange := none
          finished := lane.finished ++
            [⟨ticket, .send command timeout, .failed (.detached target)⟩] }
  | left (ticket : Nat) (timeout : Duration) (rest : List (Nat × Operation))
      (log : List LogEvent) (free : lane.exchange = none)
      (first : lane.queue = (ticket, .send .halt timeout) :: rest)
      (unknown : lane.standing.endpoint? = none) :
      Move target patience id lane .grant
        { lane with
          queue := rest
          standing := lane.standing.leave
          connections := closing lane.slot lane.connections
          slot := none
          exchange := none
          finished := lane.finished ++ [⟨ticket, .send .halt timeout, .answered .halted⟩]
          log }
  | staged (e : LaneEvent) (x : Exchange) (stage : Stage) {glance : Glance}
      (held : lane.exchange = some x) (next : Advance lane x e stage glance) :
      Move target patience id lane e { lane with exchange := some { x with stage, glance } }
  | connected (x : Exchange) (log : List LogEvent) (held : lane.exchange = some x)
      (stage : x.stage = .dialing) :
      Move target patience id lane (.dialed .connected)
        { lane with
          connections := lane.connections ++ [{ endpoint := ⟨x.request.host, x.request.port⟩ }]
          slot := some lane.connections.length
          exchange := some { x with stage := .entering lane.connections.length }
          log }
  | registered (x : Exchange) (n : Nat) (held : lane.exchange = some x)
      (stage : x.stage = .registering n) :
      Move target patience id lane .register
        { lane with
          connections := lane.connections.modify n fun c =>
            { c with pending := c.pending ++ [x.request.id] }
          exchange := some { x with stage := .writing n } }
  | transmitted (x : Exchange) (n : Nat) (frame : Bytes) (held : lane.exchange = some x)
      (stage : x.stage = .writing n) (whole : Frame.encode x.request.json = .ok frame) :
      Move target patience id lane (.wrote .written)
        { lane with
          sent := lane.sent ++ [⟨x.ticket, n, x.request⟩]
          exchange := some { x with stage := .waiting n } }
  | unheard (e : LaneEvent) (x : Exchange) (error : ChannelError) (sent : Bool)
      (connections : List Connection) (log : List LogEvent) (held : lane.exchange = some x)
      (snag : Snag patience lane x e error sent connections) (halt : x.request.command = .halt) :
      Move target patience id lane e
        { lane with
          standing := lane.standing.leave
          connections := closing lane.slot connections
          slot := none
          exchange := none
          lapses := lane.lapses ++ [⟨x.ticket, error, sent⟩]
          finished := lane.finished ++
            [⟨x.ticket, .send x.request.command x.timeout, .answered .halted⟩]
          log }
  | repeated (e : LaneEvent) (x : Exchange) (error : ChannelError) (sent : Bool)
      (connections : List Connection) (log : List LogEvent) (held : lane.exchange = some x)
      (snag : Snag patience lane x e error sent connections)
      (again : mayRepeat x error sent = true) :
      Move target patience id lane e
        { lane with
          connections := closing lane.slot connections
          slot := none
          exchange := some
            { x with second := true, stage := .choosing, mail := none, glance := .mail }
          lapses := lane.lapses ++ [⟨x.ticket, error, sent⟩]
          log }
  | failed (e : LaneEvent) (x : Exchange) (error : ChannelError) (sent : Bool)
      (connections : List Connection) (log : List LogEvent) (held : lane.exchange = some x)
      (snag : Snag patience lane x e error sent connections)
      (going : x.request.command ≠ .halt) (once : mayRepeat x error sent = false) :
      Move target patience id lane e
        { lane with
          standing := if error.isLoss then lane.standing.detach else lane.standing
          connections := if error.isLoss then closing lane.slot connections else connections
          slot := if error.isLoss then none else lane.slot
          exchange := none
          lapses := lane.lapses ++ [⟨x.ticket, error, sent⟩]
          finished := lane.finished ++
            [⟨x.ticket, .send x.request.command x.timeout, .failed error⟩]
          log }
  | halted (x : Exchange) (n : Nat) (r : Response) (expired : Bool) (log : List LogEvent)
      (held : lane.exchange = some x) (stage : x.stage = .waiting n)
      (mail : x.mail = some (.ok r)) (halt : x.request.command = .halt)
      (glance : x.glance = .mail) :
      Move target patience id lane (.wake expired)
        { lane with
          standing := lane.standing.leave
          connections := closing lane.slot lane.connections
          slot := none
          exchange := none
          finished := lane.finished ++
            [⟨x.ticket, .send x.request.command x.timeout, .answered .halted⟩]
          log }
  | misjudged (x : Exchange) (n : Nat) (r : Response) (expired : Bool) (error : ChannelError)
      (held : lane.exchange = some x) (stage : x.stage = .waiting n)
      (mail : x.mail = some (.ok r)) (going : x.request.command ≠ .halt)
      (verdict : Reply.judge x.request.command r = .error error) (glance : x.glance = .mail) :
      Move target patience id lane (.wake expired)
        { lane with
          exchange := none
          finished := lane.finished ++
            [⟨x.ticket, .send x.request.command x.timeout, .failed error⟩] }
  | answered (x : Exchange) (n : Nat) (r : Response) (expired : Bool) (reply : Reply)
      (log : List LogEvent) (held : lane.exchange = some x) (stage : x.stage = .waiting n)
      (mail : x.mail = some (.ok r)) (going : x.request.command ≠ .halt)
      (verdict : Reply.judge x.request.command r = .ok reply) (glance : x.glance = .mail) :
      Move target patience id lane (.wake expired)
        { lane with
          standing := reply.record x.request.command lane.standing
          exchange := none
          finished := lane.finished ++
            [⟨x.ticket, .send x.request.command x.timeout, .answered reply⟩]
          log }
  | handed (e : LaneEvent) (n : Nat) (ids : List RequestId) (mail : Except ChannelError Response)
      (connections : List Connection) (log : List LogEvent)
      (handing : Handing lane e n ids mail connections) :
      Move target patience id lane e
        { lane with connections, exchange := posted n ids mail lane.exchange, log }
  | ended (n : Nat) (c : Connection) (ending : Ending) (log : List LogEvent)
      (entry : lane.connections[n]? = some c) (reading : c.reader = .reading)
      (end_closed : ending = .closedHere → c.closed = true) :
      Move target patience id lane (.ended n ending)
        { lane with
          connections := lane.connections.modify n fun c =>
            { c with closed := true, reader := .stopping }
          log }
  | abandoned (ticket : Nat) :
      Move target patience id lane (.abandoned ticket)
        { lane with
          queue := lane.queue.filter (·.1 ≠ ticket)
          exchange := lane.exchange.filter (·.ticket ≠ ticket) }

theorem release_eq (lane : Lane) :
    lane.release =
      { lane with connections := closing lane.slot lane.connections, slot := none } := by
  unfold release closing update
  split
  next n held => rw [held]
  next empty => cases lane; simp_all

theorem learn_eq (lane : Lane) (target : Target) {f : Standing → Standing} (hf : f none = none) :
    lane.learn target f =
      { lane with standing := f lane.standing, log := (lane.learn target f).log } := by
  unfold learn
  split
  next unknown => rw [note, unknown, hf]
  next => rfl

theorem quit_eq (lane : Lane) (target : Target) :
    lane.quit target = { lane with
      standing := lane.standing.leave
      connections := closing lane.slot lane.connections
      slot := none
      log := (lane.quit target).log } := by
  unfold quit
  rw [learn_eq lane.release target (f := Standing.leave) rfl, release_eq]

theorem deliver_eq (lane : Lane) (n : Nat) (id : RequestId) (mail : Except ChannelError Response) :
    lane.deliver n id mail = { lane with exchange := posted n [id] mail lane.exchange } := by
  unfold deliver posted
  cases h : lane.exchange with
  | none => cases lane; simp_all
  | some x =>
    simp only [List.mem_singleton, Option.map_some]
    split
    · rfl
    · cases lane; simp_all

theorem posted_posted (n : Nat) (ids more : List RequestId) (mail : Except ChannelError Response)
    (exchange : Option Exchange) :
    posted n more mail (posted n ids mail exchange) = posted n (ids ++ more) mail exchange := by
  cases exchange with
  | none => rfl
  | some x =>
    simp only [posted, Option.map_some, List.mem_append, Option.some.injEq]
    by_cases hs : x.stage = .writing n ∨ x.stage = .waiting n <;> by_cases empty : x.mail = none <;>
      by_cases hi : x.request.id ∈ ids <;> by_cases hm : x.request.id ∈ more <;>
      simp [hs, hi, hm, empty]

theorem foldl_deliver_eq (lane : Lane) (n : Nat) (ids : List RequestId)
    (mail : Except ChannelError Response) :
    ids.foldl (fun lane id => lane.deliver n id mail) lane =
      { lane with exchange := posted n ids mail lane.exchange } := by
  induction ids generalizing lane with
  | nil => cases h : lane.exchange <;> cases lane <;> simp_all [posted]
  | cons id ids ih =>
    rw [List.foldl_cons, ih, deliver_eq]
    simp only [posted_posted, List.singleton_append]

theorem deliverAll_eq (lane : Lane) (n : Nat) (c : Connection) (e : ChannelError) :
    lane.deliverAll n c e = { lane with
      connections := lane.connections.modify n fun c => { c with pending := [] }
      exchange := posted n c.pending (.error e) lane.exchange } := by
  rw [deliverAll, foldl_deliver_eq]
  rfl

section Moves

variable {target : Target} {patience : Duration} {id : RequestId} {lane : Lane} {x : Exchange}

theorem fail_move {e : LaneEvent} {error : ChannelError} {sent : Bool}
    {connections : List Connection} (held : lane.exchange = some x)
    (snag : Snag patience lane x e error sent connections) :
    Move target patience id lane e (fail target { lane with connections } x error sent) := by
  simp only [fail, conclude, finish]
  split
  next halt =>
    rw [quit_eq]
    exact .unheard e x error sent connections _ held snag halt
  next going =>
    split
    next again =>
      rw [release_eq]
      exact .repeated e x error sent connections _ held snag again
    next once =>
      have once := Bool.eq_false_iff.mpr once
      have move (log : List LogEvent) : Move target patience id lane e _ :=
        .failed e x error sent connections log held snag going once
      cases loss : error.isLoss with
      | false =>
        simp only [loss, Bool.false_eq_true, if_false] at move
        exact move _
      | true =>
        rw [if_pos rfl, learn_eq _ target (f := Standing.detach) rfl, release_eq]
        simp only [loss, if_true] at move
        exact move _

theorem settle_move {n : Nat} {r : Response} {expired : Bool} (held : lane.exchange = some x)
    (stage : x.stage = .waiting n) (glance : x.glance = .mail) (mail : x.mail = some (.ok r)) :
    Move target patience id lane (.wake expired) (settle target lane x r) := by
  simp only [settle, conclude, finish]
  split
  next halt =>
    rw [quit_eq]
    split <;> exact .halted x n r expired _ held stage mail halt glance
  next going =>
    split
    next error verdict => exact .misjudged x n r expired error held stage mail going verdict glance
    next reply verdict =>
      have hf : reply.record x.request.command none = none := by
        cases reply <;> simp only [Reply.record] <;> first | rfl | (split <;> rfl)
      rw [learn_eq lane target hf]
      exact .answered x n r expired reply _ held stage mail going verdict glance

theorem grant_move : Move target patience id lane .grant (grant target id lane) := by
  simp only [grant, finish]
  split
  next ticket operation rest free first =>
    split
    next endpoint =>
      rw [release_eq]
      exact .attached ticket endpoint rest _ free first
    next command timeout =>
      split
      next endpoint known =>
        simp only [start]
        split
        next => exact .started ticket command timeout endpoint rest lane.log free first known
        next => exact .started ticket command timeout endpoint rest _ free first known
      next unknown =>
        split
        next halt =>
          subst halt
          rw [quit_eq]
          exact .left ticket timeout rest _ free first unknown
        next going => exact .detached ticket command timeout rest free first unknown going
  next =>
    refine .idle _ lane.log rfl ?_
    simp only [turn]

theorem received_move {n : Nat} {c : Connection} {payload : Bytes}
    (entry : lane.connections[n]? = some c) (reading : c.reader = .reading) :
    Move target patience id lane (.received n payload) (received lane n c payload) := by
  unfold received
  split
  next e decoded =>
    rw [deliverAll_eq]
    exact .handed _ n _ _ _ _ (.unreadable n c payload e entry reading decoded)
  next r decoded =>
    split
    next awaited =>
      rw [deliver_eq]
      exact .handed _ n _ _ _ _
        (.reply n c payload r entry reading decoded (List.contains_iff_mem.mp awaited))
    next => exact .idle _ _ rfl rfl

theorem wake_move {expired : Bool} (held : lane.exchange = some x) :
    Move target patience id lane (.wake expired) (wake target lane x expired) := by
  unfold wake
  split
  next n stage =>
    have looks {glance : Glance} (next : Advance lane x (.wake expired) x.stage glance) :
        Move target patience id lane (.wake expired) (lane.lookAt x glance) :=
      .staged _ x _ held next
    split
    next glance =>
      split
      next r mail => exact settle_move held stage glance mail
      next e mail => exact fail_move held (.told n expired e stage mail glance)
      next mail => exact looks (.unanswered n expired stage glance mail)
    next glance =>
      cases expired with
      | true => exact fail_move held (.overdue n stage glance)
      | false => exact looks (.early n stage glance)
    next glance =>
      split
      next usable => exact looks (.linked n expired stage glance usable)
      next closed =>
        exact fail_move held (.lost n stage glance (Bool.eq_false_iff.mpr closed))
  next => exact .idle _ lane.log rfl rfl

theorem wrote_move {result : Writing} (held : lane.exchange = some x) :
    Move target patience id lane (.wrote result) (wrote target lane x result) := by
  unfold wrote
  split
  next n stage =>
    split
    next e size => exact fail_move held (.oversized n result e stage size)
    next frame whole =>
      split
      next => exact .transmitted x n frame held stage whole
      next text => exact fail_move held (.unwritten n text stage)
  next => exact .idle _ lane.log rfl rfl

theorem dialed_move {result : Dialing} (held : lane.exchange = some x) :
    Move target patience id lane (.dialed result) (dialed target patience lane x result) := by
  unfold dialed
  split
  next stage =>
    split
    next => exact .connected x _ held stage
    next => exact fail_move held (.refused stage)
    next text => exact fail_move held (.unreachable text stage)
    next => exact fail_move held (.slow stage)
  next => exact .idle _ lane.log rfl rfl

theorem choose_move (held : lane.exchange = some x) :
    Move target patience id lane .choose (choose lane x) := by
  unfold choose
  split
  next stage =>
    split
    next n usable => exact .staged _ x _ held (.keep n stage usable)
    next usable => exact .staged _ x _ held (.dial stage usable)
  next => exact .idle _ lane.log rfl rfl

theorem enter_move (held : lane.exchange = some x) :
    Move target patience id lane .enter (enter target lane x) := by
  unfold enter
  split
  next n stage =>
    split
    next usable => exact .staged _ x _ held (.pass n stage usable)
    next closed => exact fail_move held (.shut n stage (Bool.eq_false_iff.mpr closed))
  next => exact .idle _ lane.log rfl rfl

theorem register_move (held : lane.exchange = some x) :
    Move target patience id lane .register (register lane x) := by
  unfold register
  split
  next n stage => exact .registered x n held stage
  next => exact .idle _ lane.log rfl rfl

theorem ended_move {n : Nat} {c : Connection} {ending : Ending}
    (entry : lane.connections[n]? = some c) (reading : c.reader = .reading) :
    Move target patience id lane (.ended n ending) (ended lane n c ending) := by
  unfold ended
  split
  next => exact .ended n c _ _ entry reading (by simp)
  next => exact .ended n c _ _ entry reading (by simp)
  next =>
    split
    next closed => exact .ended n c _ lane.log entry reading (fun _ => closed)
    next => exact .idle _ lane.log rfl rfl

theorem drained_move {n : Nat} {c : Connection} (entry : lane.connections[n]? = some c)
    (stopping : c.reader = .stopping) :
    Move target patience id lane (.drained n) (drained lane n c) := by
  rw [drained, deliverAll_eq]
  exact .handed _ n _ _ _ lane.log (.gone n c entry stopping)

/-- A step of the caller is a move if it is one for the call that holds the lane. -/
theorem proceed_move {e : LaneEvent} {f : Exchange → Lane} (quiet : incoming e = [])
    (still : turn lane e = [])
    (h : ∀ x, lane.exchange = some x → Move target patience id lane e (f x)) :
    Move target patience id lane e (lane.proceed f) := by
  unfold proceed
  split
  next x held => exact h x held
  next => exact .idle _ lane.log quiet still

/-- A step of a reader is a move if it is one for a connection in the state that is asked for. -/
theorem attend_move {e : LaneEvent} {n : Nat} {state : ReaderState} {f : Connection → Lane}
    (quiet : incoming e = []) (still : turn lane e = [])
    (h : ∀ c, lane.connections[n]? = some c → c.reader = state →
      Move target patience id lane e (f c)) :
    Move target patience id lane e (lane.attend n state f) := by
  unfold attend
  split
  next c entry =>
    split
    next reader => exact h c entry reader
    next => exact .idle _ lane.log quiet still
  next => exact .idle _ lane.log quiet still

theorem step_move (target : Target) (patience : Duration) (id : RequestId) (lane : Lane)
    (e : LaneEvent) : Move target patience id lane e (lane.step target patience id e) := by
  cases e with
  | call operation =>
    simp only [step, call]
    split
    next fs => exact .refused operation fs
    next other => exact .queued operation (Bool.eq_false_iff.mpr other)
  | grant => exact grant_move
  | choose => exact proceed_move rfl rfl fun _ held => choose_move held
  | dialed result => exact proceed_move rfl rfl fun _ held => dialed_move held
  | enter => exact proceed_move rfl rfl fun _ held => enter_move held
  | register => exact proceed_move rfl rfl fun _ held => register_move held
  | wrote result => exact proceed_move rfl rfl fun _ held => wrote_move held
  | wake expired => exact proceed_move rfl rfl fun _ held => wake_move held
  | received n payload =>
    exact attend_move rfl rfl fun _ entry reading => received_move entry reading
  | ended n ending => exact attend_move rfl rfl fun _ entry reading => ended_move entry reading
  | drained n => exact attend_move rfl rfl fun _ entry stopping => drained_move entry stopping
  | abandoned ticket => exact .abandoned ticket

end Moves

end Lane

end ClassSwap
