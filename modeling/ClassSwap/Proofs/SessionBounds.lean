import ClassSwap.Proofs.ReplySource

namespace ClassSwap

open Channel

def Finished.attachedTo? (f : Finished) : Option Endpoint :=
  match f.operation, f.outcome with
  | .attach endpoint, .attached => some endpoint
  | _, _ => none

/-- The endpoint of the latest attach among calls that are over. -/
def latestAttach (finished : List Finished) : Option Endpoint :=
  (finished.filterMap Finished.attachedTo?).getLast?

theorem latestAttach_concat (finished : List Finished) (f : Finished) :
    latestAttach (finished ++ [f]) = f.attachedTo?.or (latestAttach finished) := by
  cases attach : f.attachedTo? with
  | none => simp [latestAttach, List.filterMap_append, attach]
  | some endpoint => simp [latestAttach, List.filterMap_append, attach]

namespace Standing

theorem endpoint?_detach (s : Standing) : s.detach.endpoint? = s.endpoint? := by
  cases s <;> rfl

theorem endpoint?_leave (s : Standing) : s.leave.endpoint? = none := by
  cases s <;> rfl

theorem isDetached_leave (s : Standing) : s.leave.isDetached = true := by
  cases s <;> rfl

theorem isDetached_detach (s : Standing) : s.detach.isDetached = true := by
  cases s <;> rfl

theorem endpoint?_record (reply : Reply) (command : Command) (s : Standing) :
    (reply.record command s).endpoint? = s.endpoint? := by
  cases s with
  | none => cases reply <;> cases command <;> rfl
  | some status => cases reply <;> cases command <;> rfl

end Standing

namespace Lane

variable {target : Target} {patience : Duration} {id : RequestId} {lane lane' : Lane}
  {x y : Exchange} {e : LaneEvent}

/-- Where each connection leads. -/
def endpoints (lane : Lane) : List Endpoint := lane.connections.map (·.endpoint)

theorem map_endpoint_modify (connections : List Connection) (n : Nat) (f : Connection → Connection)
    (same : ∀ c, (f c).endpoint = c.endpoint) :
    (connections.modify n f).map (·.endpoint) = connections.map (·.endpoint) := by
  apply List.ext_getElem?
  intro m
  rw [List.getElem?_map, List.getElem?_map, List.getElem?_modify]
  cases connections[m]? with
  | none => rfl
  | some c =>
    by_cases here : n = m <;> simp [here, same]

theorem map_endpoint_closing (slot : Option Nat) (connections : List Connection) :
    (closing slot connections).map (·.endpoint) = connections.map (·.endpoint) := by
  cases slot with
  | none => rfl
  | some n => exact map_endpoint_modify connections n _ fun _ => rfl

theorem Snag.endpoints {error : ChannelError} {sent : Bool} {connections : List Connection}
    (snag : Snag patience lane x e error sent connections) :
    connections.map (·.endpoint) = lane.endpoints := by
  cases snag with
  | oversized | unwritten | overdue | lost => exact map_endpoint_modify _ _ _ fun _ => rfl
  | _ => rfl

/-- Connections are made to the endpoint of the request that needs one, and stay what they are. -/
theorem Move.endpoints (move : Move target patience id lane e lane') :
    lane'.endpoints = lane.endpoints ∨ e = .dialed .connected ∧ ∃ x, lane.exchange = some x ∧
      lane'.endpoints = lane.endpoints ++ [⟨x.request.host, x.request.port⟩] := by
  cases move with
  | connected x log held stage => exact .inr ⟨rfl, x, held, List.map_append⟩
  | attached | left | halted => exact .inl (map_endpoint_closing _ _)
  | unheard _ _ _ _ _ _ _ snag | repeated _ _ _ _ _ _ _ snag =>
    exact .inl ((map_endpoint_closing _ _).trans snag.endpoints)
  | failed e x error sent connections log held snag =>
    left
    cases loss : error.isLoss with
    | true =>
      simp only [Lane.endpoints, if_true]
      exact (map_endpoint_closing _ _).trans snag.endpoints
    | false => exact snag.endpoints
  | registered => exact .inl (map_endpoint_modify _ _ _ fun _ => rfl)
  | ended => exact .inl (map_endpoint_modify _ _ _ fun _ => rfl)
  | handed e n ids mail connections log handing =>
    left
    cases handing with
    | reply | unreadable => exact map_endpoint_modify _ _ _ fun _ => rfl
    | gone =>
      refine (map_endpoint_modify _ n _ ?_).trans (map_endpoint_modify _ n _ ?_)
      · exact fun _ => rfl
      · exact fun _ => rfl
  | _ => exact .inl rfl

inductive Phase (target : Target) (lane lane' : Lane) : Prop
  | within (endpoint : lane'.standing.endpoint? = lane.standing.endpoint?)
      (finished : lane'.finished = lane.finished ∨ ∃ f, lane'.finished = lane.finished ++ [f] ∧
        f.outcome ≠ .attached ∧
        (target.isFileSystem = false → ∀ timeout, f.operation ≠ .send .halt timeout)) :
      Phase target lane lane'
  | opening (ticket : Nat) (endpoint : Endpoint)
      (standing : lane'.standing = Standing.attached endpoint) (slot : lane'.slot = none)
      (free : lane'.exchange = none)
      (finished : lane'.finished = lane.finished ++ [⟨ticket, .attach endpoint, .attached⟩]) :
      Phase target lane lane'
  | closing (ticket : Nat) (timeout : Duration)
      (standing : lane'.standing = lane.standing.leave) (slot : lane'.slot = none)
      (free : lane'.exchange = none)
      (finished : lane'.finished =
        lane.finished ++ [⟨ticket, .send .halt timeout, .answered .halted⟩]) :
      Phase target lane lane'

theorem Move.phase (move : Move target patience id lane e lane') : Phase target lane lane' := by
  have none {command : Command} {timeout : Duration} (going : command ≠ .halt) :
      target.isFileSystem = false →
        ∀ limit, Operation.send command timeout ≠ .send .halt limit := by
    rintro _ limit ⟨⟩
    exact going rfl
  cases move with
  | refused operation fs =>
    refine .within rfl (.inr ⟨_, rfl, nofun, ?_⟩)
    intro vm
    rw [vm] at fs
    cases fs
  | attached ticket endpoint => exact .opening ticket endpoint rfl rfl rfl rfl
  | detached _ _ _ _ _ _ _ going => exact .within rfl (.inr ⟨_, rfl, nofun, none going⟩)
  | left ticket timeout => exact .closing ticket timeout rfl rfl rfl rfl
  | unheard e x error sent connections log held snag halt =>
    exact .closing x.ticket x.timeout rfl rfl rfl (by rw [halt])
  | halted x n r expired log held stage mail halt =>
    exact .closing x.ticket x.timeout rfl rfl rfl (by rw [halt])
  | failed e x error sent connections log held snag going =>
    refine .within ?_ (.inr ⟨_, rfl, nofun, none going⟩)
    show Standing.endpoint? (if _ then _ else _) = _
    split
    next => exact Standing.endpoint?_detach _
    next => rfl
  | misjudged x n r expired error held stage mail going =>
    exact .within rfl (.inr ⟨_, rfl, nofun, none going⟩)
  | answered x n r expired reply log held stage mail going =>
    exact .within (Standing.endpoint?_record _ _ _) (.inr ⟨_, rfl, nofun, none going⟩)
  | _ => exact .within rfl (.inl rfl)

/-- What a lane keeps of a session leads to its endpoint. -/
structure Bound (lane : Lane) : Prop where
  latest : ∀ endpoint, lane.standing.endpoint? = some endpoint →
    latestAttach lane.finished = some endpoint
  exchange : ∀ x, lane.exchange = some x →
    lane.standing.endpoint? = some ⟨x.request.host, x.request.port⟩
  slot : ∀ n, lane.slot = some n → lane.endpoints[n]? = lane.standing.endpoint?

theorem Move.bound (move : Move target patience id lane e lane') (wired : Wired lane)
    (h : Bound lane) : Bound lane' := by
  have emptied (slot : lane'.slot = none) (free : lane'.exchange = none)
      (latest : ∀ endpoint, lane'.standing.endpoint? = some endpoint →
        latestAttach lane'.finished = some endpoint) : Bound lane' := by
    refine ⟨latest, fun y held => ?_, fun n kept => ?_⟩
    · rw [free] at held
      cases held
    · rw [slot] at kept
      cases kept
  cases move.phase with
  | opening ticket endpoint standing slot free finished =>
    refine emptied slot free fun other known => ?_
    rw [finished, latestAttach_concat]
    rw [standing] at known
    exact known
  | closing ticket timeout standing slot free finished =>
    refine emptied slot free fun other known => ?_
    rw [standing, Standing.endpoint?_leave] at known
    cases known
  | within endpoint finished =>
    constructor
    case latest =>
      intro other known
      have before := h.latest other (endpoint ▸ known)
      rcases finished with same | ⟨f, grown, detached, _⟩
      · rw [same]
        exact before
      · have apart : f.attachedTo? = none := by
          unfold Finished.attachedTo?
          split
          next outcome => exact absurd outcome detached
          next => rfl
        rw [grown, latestAttach_concat, apart]
        exact before
    case exchange =>
      intro y held
      rw [endpoint]
      rcases move.holder held with ⟨x, hx, same⟩ | ⟨_, _, command, started, _, known, begun⟩
      · rw [same.request]
        exact h.exchange x hx
      · rw [begun]
        exact known
    case slot =>
      intro n kept
      rw [endpoint]
      rcases move.slot kept with old | ⟨dialed, count, total⟩
      · have known : n < lane.endpoints.length := by
          rw [Lane.endpoints, List.length_map]
          exact wired.slot n old
        rcases move.endpoints with same | ⟨_, x, _, grown⟩
        · rw [same]
          exact h.slot n old
        · rw [grown, List.getElem?_append_left known]
          exact h.slot n old
      · have length : lane'.endpoints.length = n + 1 := by
          rw [Lane.endpoints, List.length_map]
          exact total
        have before : lane.endpoints.length = n := by
          rw [Lane.endpoints, List.length_map]
          exact count.symm
        rcases move.endpoints with same | ⟨_, x, held, grown⟩
        · rw [same] at length
          omega
        · rw [grown, ← before, List.getElem?_concat_length]
          exact (h.exchange x held).symm

/-- No session is open, and no call is under way. -/
structure Over (lane : Lane) : Prop where
  free : lane.exchange = none
  slot : lane.slot = none
  endpoint : lane.standing.endpoint? = none
  detached : lane.standing.isDetached = true

theorem Over.not_held (h : Over lane) (held : lane.exchange = some x) : False := by
  rw [h.free] at held
  cases held

/-- Once a session is over, only an attach opens one again. Nothing is sent before, and every call
but a halt is refused. -/
theorem Move.over (move : Move target patience id lane e lane') (h : Over lane) :
    (lane'.finished = lane.finished ∧ Over lane' ∧ lane'.sent = lane.sent) ∨
      ∃ f, lane'.finished = lane.finished ++ [f] ∧ (f.outcome = .attached ∨
        Over lane' ∧ lane'.sent = lane.sent ∧ ∀ command timeout,
          f.operation = .send command timeout → command ≠ .halt →
          f.outcome = .failed (.detached target)) := by
  cases move with
  | idle | queued | ended => exact .inl ⟨rfl, ⟨h.free, h.slot, h.endpoint, h.detached⟩, rfl⟩
  | abandoned ticket =>
    have free : lane.exchange.filter (·.ticket ≠ ticket) = none := by rw [h.free]; rfl
    exact .inl ⟨rfl, ⟨free, h.slot, h.endpoint, h.detached⟩, rfl⟩
  | handed e n ids mail connections log handing =>
    have free : posted n ids mail lane.exchange = none := by rw [h.free]; rfl
    exact .inl ⟨rfl, ⟨free, h.slot, h.endpoint, h.detached⟩, rfl⟩
  | refused operation fs =>
    exact .inr ⟨_, rfl, .inr ⟨⟨h.free, h.slot, h.endpoint, h.detached⟩, rfl, fun _ _ _ _ => rfl⟩⟩
  | attached => exact .inr ⟨_, rfl, .inl rfl⟩
  | started ticket command timeout endpoint rest log free first known =>
    rw [h.endpoint] at known
    cases known
  | detached =>
    exact .inr ⟨_, rfl, .inr ⟨⟨rfl, h.slot, h.endpoint, h.detached⟩, rfl, fun _ _ _ _ => rfl⟩⟩
  | left =>
    refine .inr ⟨_, rfl, .inr ⟨⟨rfl, rfl, Standing.endpoint?_leave _, Standing.isDetached_leave _⟩,
      rfl, ?_⟩⟩
    rintro command timeout ⟨⟩ going
    exact absurd rfl going
  | staged _ _ _ held | connected _ _ held | registered _ _ held | transmitted _ _ _ held
  | unheard _ _ _ _ _ _ held | repeated _ _ _ _ _ _ held | failed _ _ _ _ _ _ held
  | halted _ _ _ _ _ held | misjudged _ _ _ _ _ held | answered _ _ _ _ _ _ held =>
    exact (h.not_held held).elim

theorem Over.grant (h : Over lane) {k : Nat} {command : Command} {timeout : Duration}
    {rest : List (Nat × Operation)} (first : lane.queue = (k, .send command timeout) :: rest)
    (going : command ≠ .halt) :
    (lane.step target patience id .grant).finished =
      lane.finished ++ [⟨k, .send command timeout, .failed (.detached target)⟩] := by
  simp only [step, Lane.grant, h.free, first, h.endpoint, if_neg going, finish]

/-- A target that is the file system has no session: every call is refused as it comes in. -/
structure Refusing (target : Target) (operations : List Operation) (lane : Lane) : Prop extends
    Over lane where
  sent : lane.sent = []
  finished : lane.finished =
    operations.zipIdx.map fun (operation, k) => ⟨k, operation, .failed (.detached target)⟩

theorem Move.refusing (move : Move target patience id lane e lane')
    (fs : target.isFileSystem = true) (queue : lane.queue = []) {operations : List Operation}
    (count : lane.calls = operations.length) (h : Refusing target operations lane) :
    Refusing target (operations ++ incoming e) lane' := by
  have empty {q : Nat × Operation} {rest : List (Nat × Operation)}
      (first : lane.queue = q :: rest) : False := by
    rw [queue] at first
    cases first
  have quiet (silent : incoming e = []) (free : lane'.exchange = none)
      (slot : lane'.slot = lane.slot) (standing : lane'.standing = lane.standing)
      (sent : lane'.sent = lane.sent) (finished : lane'.finished = lane.finished) :
      Refusing target (operations ++ incoming e) lane' := by
    rw [silent, List.append_nil]
    refine ⟨⟨free, ?_, ?_, ?_⟩, ?_, ?_⟩
    · rw [slot]; exact h.slot
    · rw [standing]; exact h.endpoint
    · rw [standing]; exact h.detached
    · rw [sent]; exact h.sent
    · rw [finished]; exact h.finished
  cases move with
  | refused operation =>
    refine ⟨⟨h.free, h.slot, h.endpoint, h.detached⟩, h.sent, ?_⟩
    rw [h.finished, incoming, List.zipIdx_append, List.map_append, count]
    simp
  | queued _ vm =>
    rw [fs] at vm
    cases vm
  | idle e log silent => exact quiet silent h.free rfl rfl rfl rfl
  | ended => exact quiet rfl h.free rfl rfl rfl rfl
  | handed e n ids mail connections log handing =>
    refine quiet (by cases handing <;> rfl) ?_ rfl rfl rfl rfl
    rw [h.free]
    rfl
  | abandoned ticket =>
    refine quiet rfl ?_ rfl rfl rfl rfl
    rw [h.free]
    rfl
  | attached _ _ _ _ _ first | started _ _ _ _ _ _ _ first | detached _ _ _ _ _ first
  | left _ _ _ _ _ first => exact (empty first).elim
  | staged _ _ _ held | connected _ _ held | registered _ _ held | transmitted _ _ _ held
  | unheard _ _ _ _ _ _ held | repeated _ _ _ _ _ _ held | failed _ _ _ _ _ _ held
  | halted _ _ _ _ _ held | misjudged _ _ _ _ _ held | answered _ _ _ _ _ _ held =>
    exact (h.not_held held).elim

theorem Move.halt_answered (move : Move target patience id lane e lane')
    (vm : target.isFileSystem = false) {f : Finished} (mem : f ∈ lane'.finished)
    {timeout : Duration} (halt : f.operation = .send .halt timeout) :
    f ∈ lane.finished ∨ f.outcome = .answered .halted := by
  cases move.phase with
  | within _ finished =>
    rcases finished with same | ⟨g, grown, _, going⟩
    · exact .inl (same ▸ mem)
    · rw [grown] at mem
      rcases List.mem_append.mp mem with old | new
      · exact .inl old
      · rw [List.mem_singleton.mp new] at halt
        exact absurd halt (going vm timeout)
  | opening ticket endpoint _ _ _ finished =>
    rw [finished] at mem
    rcases List.mem_append.mp mem with old | new
    · exact .inl old
    · rw [List.mem_singleton.mp new] at halt
      cases halt
  | closing ticket limit _ _ _ finished =>
    rw [finished] at mem
    rcases List.mem_append.mp mem with old | new
    · exact .inl old
    · rw [List.mem_singleton.mp new]
      exact .inr rfl

end Lane

namespace Channel

variable {patience : Duration} {t : Target} {events : History}

theorem bound (patience : Duration) (t : Target) (events : History) :
    ((after patience events).lane t).Bound := by
  refine lane_induction (P := fun _ lane => lane.Bound) ?_ ?_ ?_ events
  · constructor
    case latest => intro endpoint known; cases known
    case exchange => intro x held; cases held
    case slot => intro n slot; cases slot
  · exact fun _ _ _ h => h
  · intro events e lane' h move _
    exact move.bound (wired patience t events) h

/-- A frame goes out at a place of the run: to the endpoint of the latest attach, over a connection
to it that was opened since. -/
structure Carried (patience : Duration) (t : Target) (events : History) (tx : Transmission)
    (place : Nat) : Prop where
  event : events[place]? = some (t, .wrote .written)
  added : ((after patience (events.take (place + 1))).lane t).sent =
    ((after patience (events.take place)).lane t).sent ++ [tx]
  session : latestAttach ((after patience (events.take place)).lane t).finished =
    some ⟨tx.request.host, tx.request.port⟩
  connection : ((after patience (events.take place)).lane t).endpoints[tx.connection]? =
    some ⟨tx.request.host, tx.request.port⟩
  opened : ∃ opening < place, Opened patience t events tx.connection opening ∧
    Recent patience t events ((after patience (events.take place)).lane t).finished opening

theorem Carried.append {tx : Transmission} {place : Nat}
    (h : Carried patience t events tx place) (more : History) :
    Carried patience t (events ++ more) tx place := by
  obtain ⟨event, added, session, connection, opening, before, opened, recent⟩ := h
  have inside : place < events.length := (List.getElem?_eq_some_iff.mp event).1
  have until_ : (events ++ more).take place = events.take place := take_append_of_some more event
  constructor
  case event => exact getElem?_append_of_some more event
  case added =>
    rw [until_, List.take_append_of_le_length inside]
    exact added
  case session => rw [until_]; exact session
  case connection => rw [until_]; exact connection
  case opened =>
    rw [until_]
    exact ⟨opening, before, opened.append more, recent.later opened more fun _ mem _ => mem⟩

/-- A frame goes out for the call that holds the lane. -/
theorem Carried.holder {tx : Transmission} {place : Nat}
    (h : Carried patience t events tx place) :
    ∃ x, ((after patience (events.take place)).lane t).exchange = some x ∧
      x.ticket = tx.ticket := by
  have added := h.added
  rw [List.take_add_one, h.event, Option.toList_some, after_here] at added
  have move := Lane.step_move t patience (after patience (events.take place)).nextId
    ((after patience (events.take place)).lane t) (.wrote .written)
  rcases move.sent with same | ⟨x, n, _, held, _, _, grown, _⟩
  · rw [same] at added
    simp at added
  · have own : tx = ⟨x.ticket, n, x.request⟩ :=
      (List.singleton_inj.mp (List.append_cancel_left (grown.symm.trans added))).symm
    exact ⟨x, held, by rw [own]⟩

/-- Every frame goes out within the session of the latest attach. -/
theorem sent_carried (patience : Duration) (t : Target) (events : History) :
    ∀ i tx, ((after patience events).lane t).sent[i]? = some tx →
      ∃ place, Carried patience t events tx place ∧
        ((after patience (events.take place)).lane t).sent.length = i := by
  refine lane_induction (P := fun events lane => ∀ i tx, lane.sent[i]? = some tx →
    ∃ place, Carried patience t events tx place ∧
      ((after patience (events.take place)).lane t).sent.length = i) ?_ ?_ ?_ events
  · intro i tx sent
    cases sent
  · intro events e _ ih i tx sent
    obtain ⟨place, carried, index⟩ := ih i tx sent
    refine ⟨place, carried.append _, ?_⟩
    rw [take_append_of_some _ carried.event]
    exact index
  · intro events e lane' ih move eq i tx sent
    have old (sent : ((after patience events).lane t).sent[i]? = some tx) :
        ∃ place, Carried patience t (events ++ [(t, e)]) tx place ∧
          ((after patience ((events ++ [(t, e)]).take place)).lane t).sent.length = i := by
      obtain ⟨place, carried, index⟩ := ih i tx sent
      refine ⟨place, carried.append _, ?_⟩
      rw [take_append_of_some _ carried.event]
      exact index
    cases move with
    | transmitted x n frame held stage whole =>
      rw [List.getElem?_append] at sent
      split at sent
      next => exact old sent
      next beyond =>
        obtain ⟨rfl, last⟩ : tx = ⟨x.ticket, n, x.request⟩ ∧
            i = ((after patience events).lane t).sent.length := by
          have bound := (List.getElem?_eq_some_iff.mp sent).1
          simp only [List.length_singleton] at bound
          have zero : i - ((after patience events).lane t).sent.length = 0 := by omega
          rw [zero] at sent
          cases sent
          exact ⟨rfl, by omega⟩
        have slot := (wired patience t events).stage x n held (by rw [stage]; rfl)
        have kept := bound patience t events
        have endpoint := kept.exchange x held
        obtain ⟨opening, opened, recent⟩ := slot_opened patience t events n slot
        have before := (List.getElem?_eq_some_iff.mp opened.event).1
        refine ⟨events.length, ⟨by simp, ?_, ?_, ?_, opening, before, opened.append _, ?_⟩, ?_⟩
        · rw [List.take_left, List.take_of_length_le (by simp), eq]
        · rw [List.take_left]
          exact kept.latest _ endpoint
        · rw [List.take_left]
          exact (kept.slot n slot).trans endpoint
        · rw [List.take_left]
          exact recent.later opened _ fun _ mem _ => mem
        · rw [List.take_left]
          exact last.symm
    | _ => exact old sent

theorem fileSystem_refusing (patience : Duration) {t : Target} (fs : t.isFileSystem = true)
    (events : History) :
    Lane.Refusing t (callsOn t events) ((after patience events).lane t) := by
  refine lane_induction (P := fun events lane => Lane.Refusing t (callsOn t events) lane) ?_ ?_ ?_
    events
  · exact ⟨⟨rfl, rfl, rfl, rfl⟩, rfl, rfl⟩
  · intro events e other h
    rw [callsOn_elsewhere events other]
    exact h
  · intro events e lane' h move _
    rw [callsOn_here]
    have queue := ((inTurn patience t events).idle fs).1
    exact move.refusing fs queue (accounted patience t events).count h

/-- Once a halt is over, nothing is open, and nothing opens until the next attach. -/
theorem over_of_halt (patience : Duration) (t : Target) (events : History) :
    ∀ f timeout, ((after patience events).lane t).finished.getLast? = some f →
      f.operation = .send .halt timeout → ((after patience events).lane t).Over := by
  cases fs : t.isFileSystem with
  | true => exact fun _ _ _ _ => (fileSystem_refusing patience fs events).toOver
  | false =>
    refine lane_induction (P := fun _ lane => ∀ f timeout, lane.finished.getLast? = some f →
      f.operation = .send .halt timeout → lane.Over) ?_ ?_ ?_ events
    · intro f timeout last
      cases last
    · exact fun _ _ _ h => h
    · intro events e lane' ih move _ f timeout last halt
      cases move.phase with
      | opening ticket endpoint _ _ _ finished =>
        rw [finished, List.getLast?_concat] at last
        cases last
        cases halt
      | closing ticket limit standing slot free finished =>
        refine ⟨free, slot, ?_, ?_⟩
        · rw [standing, Standing.endpoint?_leave]
        · rw [standing, Standing.isDetached_leave]
      | within _ finished =>
        rcases finished with same | ⟨g, grown, _, going⟩
        · rcases move.over (ih f timeout (same ▸ last) halt) with ⟨_, ended, _⟩ | ⟨g, grown, _⟩
          · exact ended
          · rw [same] at grown
            simp at grown
        · rw [grown, List.getLast?_concat] at last
          cases last
          exact absurd halt (going fs timeout)

theorem over_until_attach (ended : ((after patience events).lane t).Over) (more : History) :
    let lane := (after patience events).lane t
    let later := (after patience (events ++ more)).lane t
    ∃ new, later.finished = lane.finished ++ new ∧
      ((∀ f ∈ new, f.outcome ≠ .attached) → later.Over ∧ later.sent = lane.sent ∧
        ∀ f ∈ new, ∀ command timeout, f.operation = .send command timeout → command ≠ .halt →
          f.outcome = .failed (.detached t)) := by
  intro lane later
  refine lane_induction_from (P := fun _ later => ∃ new, later.finished = lane.finished ++ new ∧
    ((∀ f ∈ new, f.outcome ≠ .attached) → later.Over ∧ later.sent = lane.sent ∧
      ∀ f ∈ new, ∀ command timeout, f.operation = .send command timeout → command ≠ .halt →
        f.outcome = .failed (.detached t))) events ?_ ?_ ?_ more
  · refine ⟨[], (List.append_nil _).symm, fun _ => ⟨ended, rfl, ?_⟩⟩
    intro f mem
    cases mem
  · exact fun _ _ _ h => h
  · rintro more e lane' ⟨new, finished, closed⟩ move _
    by_cases quiet : ∀ f ∈ new, f.outcome ≠ .attached
    · obtain ⟨ended, sent, refused⟩ := closed quiet
      rcases move.over ended with ⟨same, ended', unsent⟩ | ⟨f, grown, next⟩
      · exact ⟨new, same.trans finished, fun _ => ⟨ended', unsent.trans sent, refused⟩⟩
      · refine ⟨new ++ [f], by rw [grown, finished, List.append_assoc], fun none => ?_⟩
        have going := none f (List.mem_append_right _ (List.mem_singleton_self _))
        rcases next with attached | ⟨ended', unsent, last⟩
        · exact absurd attached going
        · refine ⟨ended', unsent.trans sent, ?_⟩
          intro g mem
          rcases List.mem_append.mp mem with old | new
          · exact refused g old
          · rw [List.mem_singleton.mp new]
            exact last
    · rcases move.finished with same | ⟨f, grown, _⟩
      · exact ⟨new, same.trans finished, fun none => absurd none quiet⟩
      · refine ⟨new ++ [f], by rw [grown, finished, List.append_assoc], fun none => ?_⟩
        exact absurd (fun g mem => none g (List.mem_append_left _ mem)) quiet

theorem halts_answered (patience : Duration) {t : Target} (vm : t.isFileSystem = false)
    (events : History) :
    ∀ f ∈ ((after patience events).lane t).finished, ∀ timeout,
      f.operation = .send .halt timeout → f.outcome = .answered .halted := by
  refine lane_induction (P := fun _ lane => ∀ f ∈ lane.finished, ∀ timeout,
    f.operation = .send .halt timeout → f.outcome = .answered .halted) ?_ ?_ ?_ events
  · intro f mem
    cases mem
  · exact fun _ _ _ h => h
  · intro events e lane' ih move _ f mem timeout halt
    rcases move.halt_answered vm mem halt with old | answered
    · exact ih f old timeout halt
    · exact answered

/-- What keeps the sessions of a target apart, at one moment of a run. -/
structure Apart (patience : Duration) (t : Target) (events : History) (lane : Lane) : Prop where
  /-- Every frame goes to the endpoint of the latest attach, over a connection made for it. -/
  frames : ∀ i tx, lane.sent[i]? = some tx → ∃ place, Carried patience t events tx place ∧
    ((after patience (events.take place)).lane t).sent.length = i
  /-- The connection that is kept leads to the endpoint that is known. -/
  slot : ∀ n, lane.slot = some n → lane.isOpen n = true → ∃ c, lane.connections[n]? = some c ∧
    lane.standing.endpoint? = some c.endpoint
  halts : t.isFileSystem = false → ∀ f ∈ lane.finished, ∀ timeout,
    f.operation = .send .halt timeout → f.outcome = .answered .halted
  /-- Once a halt is over and until the next attach is, nothing is kept or sent, and other calls are
  refused, at the latest when they get the lane. -/
  halted : ∀ f timeout, lane.finished.getLast? = some f → f.operation = .send .halt timeout →
    ∀ more, let later := (after patience (events ++ more)).lane t
    ∃ new, later.finished = lane.finished ++ new ∧
      ((∀ g ∈ new, g.outcome ≠ .attached) →
        later.slot = none ∧ later.standing.isDetached = true ∧ later.standing.endpoint? = none ∧
        later.sent = lane.sent ∧
        (∀ g ∈ new, ∀ command timeout, g.operation = .send command timeout → command ≠ .halt →
          g.outcome = .failed (.detached t)) ∧
        ∀ k command timeout rest, later.queue = (k, .send command timeout) :: rest →
          command ≠ .halt →
          ((after patience (events ++ more ++ [(t, .grant)])).lane t).finished =
            later.finished ++ [⟨k, .send command timeout, .failed (.detached t)⟩])
  fileSystem : t.isFileSystem = true → lane.sent = [] ∧ lane.finished =
    (callsOn t events).zipIdx.map fun (operation, k) => ⟨k, operation, .failed (.detached t)⟩

/-- Whatever callers, agents and the network do, no session of a target reaches into another. -/
theorem sessions_apart (patience : Duration) (t : Target) (events : History) :
    Apart patience t events ((after patience events).lane t) := by
  constructor
  case frames => exact sent_carried patience t events
  case slot =>
    intro n slot _
    have known := (wired patience t events).slot n slot
    have endpoint := (bound patience t events).slot n slot
    refine ⟨_, List.getElem?_eq_getElem known, ?_⟩
    rw [← endpoint, Lane.endpoints, List.getElem?_map, List.getElem?_eq_getElem known]
    rfl
  case halts => exact fun vm => halts_answered patience vm events
  case halted =>
    intro f timeout last halt more later
    have ended := over_of_halt patience t events f timeout last halt
    obtain ⟨new, finished, closed⟩ := over_until_attach ended more
    refine ⟨new, finished, fun none => ?_⟩
    obtain ⟨ended, sent, refused⟩ := closed none
    refine ⟨ended.slot, ended.detached, ended.endpoint, sent, refused, ?_⟩
    intro k command limit rest first going
    rw [after_here]
    exact ended.grant first going
  case fileSystem =>
    intro fs
    have refusing := fileSystem_refusing patience fs events
    exact ⟨refusing.sent, refusing.finished⟩

/-- A halt that the agent does not hear of, and a listing behind it. -/
def unheardHalt : History :=
  [.call (.attach ⟨"localhost", 6712⟩), .grant,
    .call (.send .halt (.ofSecs 15)), .call (.send .listClasses (.ofSecs 15)), .grant, .choose,
    .dialed .refused].map (Target.process 7, ·)

theorem sessions_apart_unheard :
    let lane := (after (.ofSecs 5) unheardHalt).lane (.process 7)
    lane.finished.getLast? = some ⟨1, .send .halt (.ofSecs 15), .answered .halted⟩ ∧
      lane.standing.isDetached = true ∧ lane.standing.endpoint? = none ∧
      ((after (.ofSecs 5) (unheardHalt ++ [(.process 7, .grant)])).lane
        (.process 7)).finished =
          lane.finished ++
            [⟨2, .send .listClasses (.ofSecs 15), .failed (.detached (.process 7))⟩] := by
  intro lane
  have last : lane.finished.getLast? = some ⟨1, .send .halt (.ofSecs 15), .answered .halted⟩ := by
    decide +kernel
  have apart := sessions_apart (.ofSecs 5) (.process 7) unheardHalt
  obtain ⟨new, finished, closed⟩ := apart.halted _ (.ofSecs 15) last rfl []
  rw [List.append_nil] at finished closed
  have none : new = [] := List.self_eq_append_right.mp finished
  subst none
  obtain ⟨_, detached, endpoint, _, _, refused⟩ := closed nofun
  exact ⟨last, detached, endpoint, refused 2 .listClasses (.ofSecs 15) [] (by decide +kernel) nofun⟩

end Channel

end ClassSwap
