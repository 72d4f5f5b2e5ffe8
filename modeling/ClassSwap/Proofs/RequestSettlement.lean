import ClassSwap.Proofs.PendingRequests

namespace ClassSwap

open Channel

namespace Lane

variable {target : Target} {patience : Duration} {id : RequestId} {lane lane' : Lane}
  {x y : Exchange} {e : LaneEvent}

theorem flatMap_zipIdx_single {α β : Type} (a : β) (l : List α) (m start : Nat)
    (above : start ≤ m) (below : m < start + l.length) :
    ((l.zipIdx start).flatMap fun p => if p.2 = m then [a] else []) = [a] := by
  induction l generalizing start with
  | nil =>
    simp only [List.length_nil] at below
    omega
  | cons b l ih =>
    simp only [List.zipIdx_cons, List.flatMap_cons]
    by_cases here : start = m
    · have rest : ((l.zipIdx (start + 1)).flatMap fun p => if p.2 = m then [a] else []) = [] := by
        apply List.flatMap_eq_nil_iff.mpr
        intro p mem
        have later := (List.mem_zipIdx mem).1
        rw [if_neg (by omega)]
      rw [if_pos here, rest]
      rfl
    · simp only [List.length_cons] at below
      rw [if_neg here, List.nil_append]
      exact ih (start + 1) (by omega) (by omega)

theorem Filed.filed_eq (h : Filed lane) (listed : Listed lane) :
    lane.filed = lane.awaiting.map fun w => (w.connection, w.id) := by
  have entry {p : Connection × Nat} (mem : p ∈ lane.connections.zipIdx) :
      lane.connections[p.2]? = some p.1 := List.mk_mem_zipIdx_iff_getElem?.mp mem
  rcases lane.awaiting_cases with idle | ⟨w, down⟩
  · rw [idle]
    apply List.flatMap_eq_nil_iff.mpr
    rintro ⟨c, n⟩ mem
    have empty : c.pending = [] := h.empty idle (entry mem)
    simp [empty]
  · obtain ⟨x, held, waits⟩ : ∃ x, lane.exchange = some x ∧ filing? x = some w := by
      have bound : lane.exchange.bind filing? = some w := by
        rw [awaiting] at down
        exact Option.toList_eq_singleton_iff.mp down
      exact Option.bind_eq_some_iff.mp bound
    obtain ⟨stage, mail, _, _⟩ := filing?_eq_some.mp waits
    obtain ⟨c, known, _⟩ := listed x w.connection held stage mail
    have bound := (List.getElem?_eq_some_iff.mp known).1
    have each : ∀ p ∈ lane.connections.zipIdx,
        (p.1.pending.map fun id => (p.2, id)) =
          if p.2 = w.connection then [(w.connection, w.id)] else [] := by
      intro p mem
      rw [h p.2 p.1 (entry mem), down]
      by_cases own : p.2 = w.connection
      · simp [own]
      · simp [own, Ne.symm own]
    rw [down, filed, List.flatMap_def, List.map_congr_left each, ← List.flatMap_def]
    exact flatMap_zipIdx_single _ lane.connections w.connection 0 (Nat.zero_le _) (by omega)

theorem awaiting_length_le (lane : Lane) : lane.awaiting.length ≤ 1 := by
  rcases lane.awaiting_cases with idle | ⟨w, down⟩
  · simp [idle]
  · simp [down]

/-- Nothing is down unless a call is sending its request or waits for the response. -/
theorem awaiting_eq_nil
    (rested : ∀ x n, lane.exchange = some x → x.stage ≠ .writing n ∧ x.stage ≠ .waiting n) :
    lane.awaiting = [] := by
  cases held : lane.exchange with
  | none => exact awaiting_none held
  | some x =>
    rw [awaiting_some held]
    cases waits : filing? x with
    | none => rfl
    | some w =>
      obtain ⟨stage, _⟩ := filing?_eq_some.mp waits
      obtain ⟨unwritten, unheard⟩ := rested x w.connection held
      rcases stage with stage | stage
      · exact absurd stage unwritten
      · exact absurd stage unheard

/-- A response that nobody awaits changes nothing but the log. -/
theorem received_unknown {n : Nat} {payload : Bytes} {r : Response}
    (decoded : Frame.decode Response.read payload = .ok r) (unknown : (n, r.id) ∉ lane.filed) :
    ∃ log, lane.step target patience id (.received n payload) = { lane with log } := by
  simp only [step, attend]
  split
  next c entry =>
    split
    next reading =>
      have absent : ¬ c.pending.contains r.id = true := by
        intro found
        apply unknown
        apply List.mem_flatMap.mpr
        refine ⟨(c, n), List.mk_mem_zipIdx_iff_getElem?.mpr entry, ?_⟩
        exact List.mem_map.mpr ⟨r.id, List.contains_iff_mem.mp found, rfl⟩
      simp only [received, decoded]
      rw [if_neg absent]
      exact ⟨_, rfl⟩
    next => exact ⟨lane.log, rfl⟩
  next => exact ⟨lane.log, rfl⟩

theorem filing?_mailed {m : Except ChannelError Response} (mail : x.mail = some m) :
    filing? x = none := by
  cases waits : filing? x with
  | none => rfl
  | some w => cases mail.symm.trans (filing?_eq_some.mp waits).2.1

/-- A payload that cannot be read goes to the call that awaits a response. -/
theorem received_stray {n : Nat} {payload : Bytes} {error : CodecError} (listed : Listed lane)
    (held : lane.exchange = some x)
    (down : (n, x.request.id) ∈ lane.awaiting.map fun w => (w.connection, w.id))
    (reading : lane.connections[n]?.map (·.reader) = some .reading)
    (decoded : Frame.decode Response.read payload = .error error) :
    (lane.step target patience id (.received n payload)).exchange = some
      { x with
        mail := some (.error (.protocolMismatch ("undecodable reply: " ++ error.message))) } := by
  obtain ⟨c, entry, state⟩ := Option.map_eq_some_iff.mp reading
  obtain ⟨w, mem, on⟩ := List.mem_map.mp down
  rw [awaiting_some held, Option.mem_toList] at mem
  obtain ⟨stage, mail, _, _⟩ := filing?_eq_some.mp mem
  obtain ⟨rfl, _⟩ := Prod.mk.inj on
  obtain ⟨d, entry', pending⟩ := listed x w.connection held stage mail
  cases entry.symm.trans entry'
  simp only [step, attend, entry, state, if_true, received, decoded, deliverAll_eq]
  show posted w.connection c.pending _ lane.exchange = _
  rw [held, posted, Option.map_some, if_pos ⟨pending, stage, mail⟩]

/-- A call has put its request down with a connection. It is there still, or has left the connection
behind. -/
inductive Lodged (lane : Lane) (k n : Nat) : Prop
  | here (x : Exchange) (held : lane.exchange = some x) (ticket : x.ticket = k)
      (stage : x.stage = .writing n ∨ x.stage = .waiting n) : Lodged lane k n
  | behind (h : Behind lane k n) : Lodged lane k n

theorem Move.lodged (move : Move target patience id lane e lane') (wired : Wired lane)
    (turns : InTurn target lane) {k n : Nat} (h : Lodged lane k n) : Lodged lane' k n := by
  cases h with
  | behind h => exact .behind (move.behind h)
  | here x held ticket stage =>
    subst ticket
    have known : n < lane.connections.length := by
      apply wired.slot n
      apply wired.stage x n held
      rcases stage with stage | stage <;> rw [stage] <;> rfl
    have left (gone : ∀ y, lane'.exchange = some y → y.ticket = x.ticket →
        y.stage.connection? ≠ some n ∧ (y.stage = .choosing → lane'.slot = none)) :
        Lodged lane' x.ticket n :=
      .behind ⟨Nat.lt_of_lt_of_le known move.connections_length,
        move.past (turns.exchange_past held), gone⟩
    cases move with
    | idle | refused | queued | ended => exact .here x held rfl stage
    | attached _ _ _ _ free | started _ _ _ _ _ _ free | detached _ _ _ _ free
    | left _ _ _ _ free =>
      rw [free] at held
      cases held
    | staged e y stage' held' next =>
      cases held.symm.trans held'
      cases next with
      | keep _ s | dial s | pass _ s =>
        rw [s] at stage
        rcases stage with stage | stage <;> cases stage
      | unanswered | early | linked => exact .here _ rfl rfl stage
    | connected y log held' s | registered y m held' s =>
      cases held.symm.trans held'
      rw [s] at stage
      rcases stage with stage | stage <;> cases stage
    | transmitted y m frame held' s =>
      cases held.symm.trans held'
      have on : m = n := by
        rw [s] at stage
        rcases stage with stage | stage <;> cases stage
        rfl
      exact .here _ rfl rfl (.inr (congrArg _ on))
    | repeated =>
      apply left
      rintro y ⟨⟩ _
      exact ⟨nofun, fun _ => rfl⟩
    | unheard | failed | halted | misjudged | answered =>
      apply left
      rintro y ⟨⟩
    | handed e m ids mail connections log handing =>
      by_cases meant : x.request.id ∈ ids ∧ (x.stage = .writing m ∨ x.stage = .waiting m) ∧
          x.mail = none
      · exact .here { x with mail := some mail } (by simp [posted, held, meant]) rfl stage
      · exact .here x (by rw [held, posted, Option.map_some, if_neg meant]) rfl stage
    | abandoned ticket =>
      by_cases own : x.ticket = ticket
      · apply left
        intro y held' _
        have away : lane.exchange.filter (·.ticket ≠ ticket) = none := by simp [held, own]
        cases held'.symm.trans away
      · exact .here x (by simp [held, own]) rfl stage

/-- A request is put down with a connection that its call has not been on before. -/
theorem Lodged.unregistered {w : Filing} (h : Lodged lane w.ticket w.connection) :
    w ∉ lane.registering e := by
  intro mem
  unfold registering at mem
  split at mem
  next x held =>
    split at mem
    next n stage =>
      cases List.mem_singleton.mp mem
      cases h with
      | here y held' _ stage' =>
        cases held.symm.trans held'
        rw [stage] at stage'
        rcases stage' with stage' | stage' <;> cases stage'
      | behind h =>
        apply (h.apart x held rfl).1
        rw [stage]
        rfl
    next => cases mem
  next => cases mem

theorem registering_lodged {w : Filing} (mem : w ∈ lane.registering e) :
    Lodged (lane.step target patience id e) w.ticket w.connection := by
  unfold registering at mem
  split at mem
  next x held =>
    split at mem
    next n stage =>
      cases List.mem_singleton.mp mem
      refine .here { x with stage := .writing n } ?_ rfl (.inl rfl)
      simp [step, proceed, held, register, stage, moveTo]
    next => cases mem
  next => cases mem

theorem settlement?_reply {n : Nat} {r : Response} {glance : Glance}
    (h : settlement? lane x n e = some (.reply r glance)) :
    ∃ payload, e = .received n payload ∧ Frame.decode Response.read payload = .ok r ∧
      r.id = x.request.id ∧ x.glance = glance ∧
      lane.connections[n]?.map (·.reader) = some .reading := by
  cases e with
  | received m payload =>
    simp only [settlement?] at h
    split at h
    next here =>
      obtain ⟨rfl, reading⟩ := here
      split at h
      next response decoded =>
        split at h
        next own =>
          cases h
          exact ⟨payload, rfl, decoded, own, rfl, reading⟩
        next => cases h
      next => cases h
    next => cases h
  | drained m =>
    simp only [settlement?] at h
    split at h <;> cases h
  | wrote result =>
    simp only [settlement?] at h
    split at h
    next => split at h <;> cases h
    next => cases h
  | wake expired =>
    simp only [settlement?] at h
    split at h
    next =>
      split at h
      next => cases h
      next => split at h <;> cases h
      next => split at h <;> cases h
    next => cases h
  | _ => cases h

theorem mem_settling {w : Filing} {s : Settlement} (mem : (w, s) ∈ lane.settling e) :
    ∃ x, lane.exchange = some x ∧ filing? x = some w ∧
      settlement? lane x w.connection e = some s := by
  unfold settling at mem
  split at mem
  next x held =>
    split at mem
    next v waits =>
      obtain ⟨s, settled, eq⟩ := Option.map_eq_some_iff.mp (Option.mem_toList.mp mem)
      cases eq
      exact ⟨x, held, waits, settled⟩
    next => cases mem
  next => cases mem

/-- The connection in the slot can carry requests. -/
structure Kept (lane : Lane) (n : Nat) (c : Connection) : Prop where
  slot : lane.slot = some n
  entry : lane.connections[n]? = some c
  unclosed : c.closed = false
  reading : c.reader = .reading

theorem fail_unlost (target : Target) (lane : Lane) (going : x.request.command ≠ .halt)
    {e : ChannelError} (kept : e.isLoss = false) (sent : Bool) :
    ∃ log, fail target lane x e sent =
      { lane with
        exchange := none
        lapses := lane.lapses ++ [⟨x.ticket, e, sent⟩]
        finished := lane.finished ++
          [⟨x.ticket, .send x.request.command x.timeout, .failed e⟩]
        log } := by
  have once : mayRepeat x e sent = false := by simp [mayRepeat, kept]
  simp only [fail, if_neg going, once, kept, Bool.false_eq_true, if_false]
  exact ⟨_, rfl⟩

section Kept

variable {n : Nat} {c : Connection}

theorem Kept.isOpen (h : Kept lane n c) : lane.isOpen n = true := by
  simp [Lane.isOpen, h.entry, h.unclosed]

theorem Kept.usable (h : Kept lane n c) : lane.usable? = some n := by
  rw [usable?, h.slot, Option.filter_some, if_pos h.isOpen]

/-- Waiting in vain, or for a response that turns out not to be readable, costs the call but not the
connection. -/
theorem Kept.wake {expired : Bool} (h : Kept lane n c)
    (after : lane.step target patience id (.wake expired) = lane') (held : lane.exchange = some x)
    (stage : x.stage = .waiting n) (going : x.request.command ≠ .halt)
    (vain : x.glance = .clock ∧ expired = true ∨
      x.glance = .mail ∧ ∃ text, x.mail = some (.error (.protocolMismatch text))) :
    lane'.exchange = none ∧ ∃ d, Kept lane' n d := by
  subst after
  rcases vain with ⟨glance, rfl⟩ | ⟨glance, text, mail⟩
  · obtain ⟨log, failed⟩ := fail_unlost target (lane.withdraw n x.request.id) going
      (e := .timeout x.request.command.action x.timeout) rfl true
    simp only [step, proceed, held, Lane.wake, stage, glance, if_true, failed]
    exact ⟨trivial, _, h.slot, getElem?_modify_self _ h.entry, h.unclosed, h.reading⟩
  · obtain ⟨log, failed⟩ := fail_unlost target lane going
      (e := .protocolMismatch text) rfl true
    simp only [step, proceed, held, Lane.wake, stage, glance, mail, failed]
    exact ⟨trivial, c, h.slot, h.entry, h.unclosed, h.reading⟩

theorem Kept.received {payload : Bytes} (h : Kept lane n c)
    (after : lane.step target patience id (.received n payload) = lane') :
    ∃ d, Kept lane' n d := by
  subst after
  have attended : lane.step target patience id (.received n payload) =
      Lane.received lane n c payload := by
    simp only [step, attend, h.entry]
    exact if_pos h.reading
  rw [attended, Lane.received]
  split
  next error decoded =>
    rw [deliverAll_eq]
    exact ⟨_, h.slot, getElem?_modify_self _ h.entry, h.unclosed, h.reading⟩
  next r decoded =>
    split
    next awaited =>
      rw [deliver_eq]
      exact ⟨_, h.slot, getElem?_modify_self _ h.entry, h.unclosed, h.reading⟩
    next => exact ⟨c, h.slot, h.entry, h.unclosed, h.reading⟩

theorem Kept.grant {k : Nat} {command : Command} {timeout : Duration} {endpoint : Endpoint}
    {rest : List (Nat × Operation)} (h : Kept lane n c)
    (after : lane.step target patience id .grant = lane') (free : lane.exchange = none)
    (first : lane.queue = (k, .send command timeout) :: rest)
    (known : lane.standing.endpoint? = some endpoint) :
    Kept lane' n c ∧ lane'.exchange = some
      { ticket := k
        request := ⟨id, endpoint.host, endpoint.port, command⟩
        timeout
        reused := true } := by
  subst after
  have reused : lane.usable?.isSome = true := by rw [h.usable]; rfl
  simp only [step, Lane.grant, free, first, known, start]
  split
  next => exact ⟨⟨h.slot, h.entry, h.unclosed, h.reading⟩, by rw [← reused]; rfl⟩
  next => exact ⟨⟨h.slot, h.entry, h.unclosed, h.reading⟩, by rw [← reused]; rfl⟩

theorem Kept.choose (h : Kept lane n c) (after : lane.step target patience id .choose = lane')
    (held : lane.exchange = some x) (stage : x.stage = .choosing) :
    Kept lane' n c ∧ lane'.exchange = some { x with stage := .entering n } := by
  subst after
  simp only [step, proceed, held, Lane.choose, stage, h.usable]
  exact ⟨⟨h.slot, h.entry, h.unclosed, h.reading⟩, rfl⟩

theorem Kept.enter (h : Kept lane n c) (after : lane.step target patience id .enter = lane')
    (held : lane.exchange = some x) (stage : x.stage = .entering n) :
    Kept lane' n c ∧ lane'.exchange = some { x with stage := .registering n } := by
  subst after
  simp only [step, proceed, held, Lane.enter, stage, h.isOpen, if_true]
  exact ⟨⟨h.slot, h.entry, h.unclosed, h.reading⟩, rfl⟩

theorem Kept.register (h : Kept lane n c) (after : lane.step target patience id .register = lane')
    (held : lane.exchange = some x) (stage : x.stage = .registering n) :
    Kept lane' n { c with pending := c.pending ++ [x.request.id] } ∧
      lane'.exchange = some { x with stage := .writing n } := by
  subst after
  simp only [step, proceed, held, Lane.register, stage]
  exact ⟨⟨h.slot, getElem?_modify_self _ h.entry, h.unclosed, h.reading⟩, rfl⟩

theorem Kept.wrote {frame : Bytes} (h : Kept lane n c)
    (after : lane.step target patience id (.wrote .written) = lane')
    (held : lane.exchange = some x) (stage : x.stage = .writing n)
    (whole : Frame.encode x.request.json = .ok frame) :
    Kept lane' n c ∧ lane'.exchange = some { x with stage := .waiting n } := by
  subst after
  simp only [step, proceed, held, Lane.wrote, stage, whole]
  exact ⟨⟨h.slot, h.entry, h.unclosed, h.reading⟩, rfl⟩

/-- A response is what the call comes to, and leaves the connection to the next one. -/
theorem Kept.answer {r : Response} {expired : Bool} (h : Kept lane n c)
    (after : lane.step target patience id (.wake expired) = lane')
    (held : lane.exchange = some x) (stage : x.stage = .waiting n) (glance : x.glance = .mail)
    (mail : x.mail = some (.ok r)) (going : x.request.command ≠ .halt) :
    Kept lane' n c ∧ lane'.exchange = none ∧
      ⟨x.ticket, .send x.request.command x.timeout, Reply.outcome x.request.command r⟩ ∈
        lane'.finished := by
  subst after
  have learnt (f : Standing → Standing) : Kept (lane.learn target f) n c := by
    unfold learn
    split <;> exact ⟨h.slot, h.entry, h.unclosed, h.reading⟩
  simp only [step, proceed, held, Lane.wake, stage, glance, mail, settle, if_neg going,
    Reply.outcome]
  split
  next e verdict =>
    rw [verdict]
    exact ⟨⟨h.slot, h.entry, h.unclosed, h.reading⟩, rfl, List.mem_append_right _ (by simp)⟩
  next reply verdict =>
    have kept := learnt (reply.record x.request.command)
    rw [verdict]
    exact ⟨⟨kept.slot, kept.entry, kept.unclosed, kept.reading⟩, rfl,
      List.mem_append_right _ (by simp)⟩

/-- A call that gets the lane while there is a connection is served over it. -/
theorem Kept.served {id₁ id₂ id₃ id₄ id₅ id₆ : RequestId} {lane₁ lane₂ lane₃ lane₄ lane₅ : Lane}
    {frame payload : Bytes} {r : Response} {expired : Bool} (h : Kept lane n c)
    (held : lane.exchange = some x) (stage : x.stage = .choosing) (glance : x.glance = .mail)
    (mail : x.mail = none) (going : x.request.command ≠ .halt)
    (fits : Frame.encode x.request.json = .ok frame)
    (decoded : Frame.decode Response.read payload = .ok r) (own : r.id = x.request.id)
    (chosen : lane.step target patience id₁ .choose = lane₁)
    (entered : lane₁.step target patience id₂ .enter = lane₂)
    (registered : lane₂.step target patience id₃ .register = lane₃)
    (written : lane₃.step target patience id₄ (.wrote .written) = lane₄)
    (heard : lane₄.step target patience id₅ (.received n payload) = lane₅)
    (woken : lane₅.step target patience id₆ (.wake expired) = lane') :
    (∃ d, Kept lane' n d) ∧ lane'.exchange = none ∧
      ⟨x.ticket, .send x.request.command x.timeout, Reply.outcome x.request.command r⟩ ∈
        lane'.finished := by
  obtain ⟨kept₁, held₁⟩ := h.choose chosen held stage
  obtain ⟨kept₂, held₂⟩ := kept₁.enter entered held₁ rfl
  obtain ⟨kept₃, held₃⟩ := kept₂.register registered held₂ rfl
  obtain ⟨kept₄, held₄⟩ := kept₃.wrote written held₃ rfl fits
  obtain ⟨d, kept₅⟩ := kept₄.received heard
  have held₅ : lane₅.exchange = some { x with stage := .waiting n, mail := some (.ok r) } := by
    rw [← heard]
    exact step_received held₄ (.inr rfl) mail kept₄.entry kept₄.reading (by simp) decoded own
  obtain ⟨kept, free, answered⟩ := kept₅.answer woken held₅ rfl glance rfl going
  exact ⟨⟨d, kept⟩, free, answered⟩

end Kept

end Lane

namespace Channel

/-- The requests that have been put down with connections to a target, in order. -/
def registered (t : Target) (c : Channel) (events : History) : List Filing :=
  record Lane.registering t c events

/-- The requests that have been settled, in order, and how. -/
def settled (t : Target) (c : Channel) (events : History) : List (Filing × Settlement) :=
  record Lane.settling t c events

variable {patience : Duration} {t : Target} {events : History}

theorem blank (patience : Duration) (t : Target) (events : History) :
    ((after patience events).lane t).Blank := by
  refine lane_induction (P := fun _ lane => lane.Blank) ?_ ?_ ?_ events
  · intro x held
    cases held
  · exact fun _ _ _ h => h
  · exact fun _ _ _ h move _ => move.blank h

theorem filed (patience : Duration) (t : Target) (events : History)
    (kept : ∀ k, (t, .abandoned k) ∉ events) : ((after patience events).lane t).Filed := by
  revert kept
  refine lane_induction (P := fun events lane => (∀ k, (t, .abandoned k) ∉ events) → lane.Filed)
    ?_ ?_ ?_ events
  · intro _ n c entry
    cases entry
  · intro events e _ ih kept
    exact ih fun k mem => kept k (List.mem_append_left _ mem)
  · intro events e lane' ih move _ kept
    have before := ih fun k mem => kept k (List.mem_append_left _ mem)
    apply move.filed (blank patience t events) _ before
    rintro k rfl
    exact kept k (List.mem_append_right _ (List.mem_singleton_self _))

/-- What has been put down has been settled or is awaited, in this order. -/
theorem registered_eq (patience : Duration) (t : Target) (events : History)
    (kept : ∀ k, (t, .abandoned k) ∉ events) :
    registered t (fresh patience) events =
      (settled t (fresh patience) events).map (·.1) ++
        ((after patience events).lane t).awaiting := by
  revert kept
  refine lane_induction (P := fun events lane => (∀ k, (t, .abandoned k) ∉ events) →
    registered t (fresh patience) events =
      (settled t (fresh patience) events).map (·.1) ++ lane.awaiting) ?_ ?_ ?_ events
  · exact fun _ => rfl
  · intro events e other ih kept
    rw [registered, settled, record_elsewhere _ _ events other, record_elsewhere _ _ events other]
    exact ih fun k mem => kept k (List.mem_append_left _ mem)
  · intro events e lane' ih _ eq kept
    have before := ih fun k mem => kept k (List.mem_append_left _ mem)
    have going : ∀ k, e ≠ .abandoned k := by
      rintro k rfl
      exact kept k (List.mem_append_right _ (List.mem_singleton_self _))
    rw [← eq, after_here, registered, settled, record_here, record_here, List.map_append,
      List.append_assoc,
      ← Lane.step_conserves (listed patience t events) (blank patience t events) going,
      ← List.append_assoc]
    exact congrArg (· ++ _) before

theorem lodged (patience : Duration) (t : Target) (events : History) :
    ∀ w ∈ registered t (fresh patience) events,
      ((after patience events).lane t).Lodged w.ticket w.connection := by
  refine lane_induction (P := fun events lane => ∀ w ∈ registered t (fresh patience) events,
    lane.Lodged w.ticket w.connection) ?_ ?_ ?_ events
  · intro w mem
    cases mem
  · intro events e other ih w mem
    rw [registered, record_elsewhere _ _ events other] at mem
    exact ih w mem
  · intro events e lane' ih move eq w mem
    rw [registered, record_here] at mem
    rcases List.mem_append.mp mem with old | new
    · exact move.lodged (wired patience t events) (inTurn patience t events) (ih w old)
    · rw [← eq, after_here]
      exact Lane.registering_lodged new

theorem registered_nodup (patience : Duration) (t : Target) (events : History) :
    (registered t (fresh patience) events).Nodup := by
  induction events using List.reverseRecOn with
  | nil => exact List.nodup_nil
  | append_singleton events e ih =>
    by_cases own : e.1 = t
    · subst own
      have fresh := lodged patience e.1 events
      have single (lane : Lane) : (lane.registering e.2).Nodup := by
        unfold Lane.registering
        split
        next => split <;> simp
        next => exact List.nodup_nil
      rw [show events ++ [e] = events ++ [(e.1, e.2)] from rfl, registered, record_here]
      apply List.nodup_append.mpr
      refine ⟨ih, single _, ?_⟩
      rintro w old v new rfl
      exact (fresh w old).unregistered new
    · rw [registered, record_elsewhere _ _ events own]
      exact ih

/-- The response to a settled request has come in for it, ahead of the look of its caller or
not. -/
theorem settled_reply {w : Filing} {r : Response} {glance : Glance}
    (mem : (w, .reply r glance) ∈ settled t (fresh patience) events) :
    ∃ q place, q.id = w.id ∧ Responds patience t events w.ticket w.connection q r place ∧
      (IsLate patience t events place → glance ≠ .mail) := by
  obtain ⟨place, e, event, settling⟩ := mem_record mem
  obtain ⟨x, held, waits, settlement⟩ := Lane.mem_settling settling
  obtain ⟨payload, rfl, decoded, own, rfl, reading⟩ := Lane.settlement?_reply settlement
  obtain ⟨stage, mail, ticket, number⟩ := Lane.filing?_eq_some.mp waits
  obtain ⟨c, entry, reader⟩ := Option.map_eq_some_iff.mp reading
  refine ⟨x.request, place, number.symm, ⟨⟨payload, event, decoded⟩,
    ⟨x, held, ticket.symm, rfl, mail, stage⟩, ⟨c, entry, reader⟩, own⟩, ?_⟩
  rintro ⟨y, held', behind⟩
  cases held.symm.trans held'
  exact behind

/-- A request got a response when its call was to take a look: the call still has it before it, or
has come to it. -/
inductive Answered (lane : Lane) (w : Filing) (glance : Glance) (q : Request) (r : Response) : Prop
  | held (x : Exchange) (holds : lane.exchange = some x) (ticket : x.ticket = w.ticket)
      (request : x.request = q) (stage : x.stage = .waiting w.connection)
      (look : glance = .mail → x.glance = .mail) (mail : x.mail = some (.ok r)) :
      Answered lane w glance q r
  | decided (f : Finished) (mem : f ∈ lane.finished) (ticket : f.ticket = w.ticket)
      (outcome : f.outcome = Reply.conclusion q.command r) : Answered lane w glance q r

/-- Once its frame is out, a request that has been answered is lost only if the response came behind
the look for it and the next looks put an end to the call. -/
theorem settled_answered {w : Filing} {r : Response} {glance : Glance}
    (mem : (w, .reply r glance) ∈ settled t (fresh patience) events)
    (kept : (t, .abandoned w.ticket) ∉ events)
    (out : ∃ tx ∈ ((after patience events).lane t).sent,
      tx.ticket = w.ticket ∧ tx.connection = w.connection) :
    ∃ q, q.id = w.id ∧ (Answered ((after patience events).lane t) w glance q r ∨
      glance ≠ .mail ∧ ((after patience events).lane t).CutShort w.ticket) := by
  obtain ⟨q, place, number, responds, timely⟩ := settled_reply mem
  obtain ⟨tx, sent, sender, same⟩ := out
  refine ⟨q, number, ?_⟩
  cases heard patience t events responds kept with
  | held x holds ticket request mail stage look =>
    refine .inl (.held x holds ticket request ?_ ?_ mail)
    · rcases stage with writing | waiting
      · have attempting := attempting patience t events x holds
        exact absurd same (attempting.unsent writing tx sent (sender.trans ticket.symm))
      · exact waiting
    · exact fun early => look.resolve_right fun late => timely late early
  | decided f mem ticket outcome => exact .inl (.decided f mem ticket outcome)
  | elsewhere h => exact absurd same (h.unsent tx sent sender)
  | missed _ late cut => exact .inr ⟨timely late, cut⟩

/-- The events by which a call is served over the connection that is kept. -/
def serving (n : Nat) (payload : Bytes) (expired : Bool) : List LaneEvent :=
  [.grant, .choose, .enter, .register, .wrote .written, .received n payload, .wake expired]

theorem kept_serves {n k : Nat} {c : Connection} {command : Command} {timeout : Duration}
    {endpoint : Endpoint} {rest : List (Nat × Operation)} {frame payload : Bytes} {r : Response}
    (kept : ((after patience events).lane t).Kept n c)
    (free : ((after patience events).lane t).exchange = none)
    (first : ((after patience events).lane t).queue = (k, .send command timeout) :: rest)
    (going : command ≠ .halt)
    (known : ((after patience events).standing t).endpoint? = some endpoint)
    (fits : Frame.encode (Request.json ⟨(after patience events).nextId, endpoint.host,
      endpoint.port, command⟩) = .ok frame)
    (decoded : Frame.decode Response.read payload = .ok r)
    (own : r.id = (after patience events).nextId) (expired : Bool) :
    let lane := (after patience (events ++ (serving n payload expired).map (t, ·))).lane t
    (∃ d, lane.Kept n d) ∧ lane.exchange = none ∧
      ⟨k, .send command timeout, Reply.outcome command r⟩ ∈ lane.finished := by
  have next (events : History) (e : LaneEvent) := (after_here patience t events e).symm
  have all : events ++ (serving n payload expired).map (t, ·) = events ++ [(t, .grant)] ++
      [(t, .choose)] ++ [(t, .enter)] ++ [(t, .register)] ++ [(t, .wrote .written)] ++
      [(t, .received n payload)] ++ [(t, .wake expired)] := by
    simp [serving]
  obtain ⟨kept, held⟩ := kept.grant (next events .grant) free first known
  rw [all]
  exact kept.served held rfl rfl rfl going fits decoded own (next _ _) (next _ _) (next _ _)
    (next _ _) (next _ _) (next _ _)

theorem kept_concat {e : LaneEvent} (kept : ∀ k, (t, .abandoned k) ∉ events)
    (other : ∀ k, e ≠ .abandoned k) : ∀ k, (t, .abandoned k) ∉ events ++ [(t, e)] := by
  intro k mem
  rcases List.mem_append.mp mem with mem | mem
  · exact kept k mem
  · cases List.mem_singleton.mp mem
    exact other k rfl

/-- How requests fare that await a response, at one moment of a run. -/
structure SettledOnce (patience : Duration) (t : Target) (events : History) (lane : Lane) :
    Prop where
  /-- All connections together have one request down at most. -/
  single : lane.filed.length ≤ 1
  /-- It is that of the call that sends it or waits, and has got nothing yet. -/
  down : lane.filed = lane.awaiting.map fun w => (w.connection, w.id)
  cleared : (∀ x n, lane.exchange = some x → x.stage ≠ .writing n ∧ x.stage ≠ .waiting n) →
    lane.filed = []
  distinct : (registered t (fresh patience) events).Nodup
  /-- Every request that was ever put down has been settled once, or is down still. -/
  once : registered t (fresh patience) events =
    (settled t (fresh patience) events).map (·.1) ++ lane.awaiting
  unknown : ∀ n payload r, Frame.decode Response.read payload = .ok r → (n, r.id) ∉ lane.filed →
    ∃ log, (after patience (events ++ [(t, .received n payload)])).lane t = { lane with log }
  own : ∀ w r glance, (w, .reply r glance) ∈ settled t (fresh patience) events → r.id = w.id
  /-- A response that was there when its caller looked for it is what the call comes to, once the
  frame of the request has left. -/
  returned : ∀ w r, (w, .reply r .mail) ∈ settled t (fresh patience) events →
    (∃ tx ∈ lane.sent, tx.ticket = w.ticket ∧ tx.connection = w.connection) →
    ∃ q, q.id = w.id ∧ Answered lane w .mail q r
  /-- It counts even if the time is over or the connection has been closed. -/
  counts : ∀ x n r expired, lane.exchange = some x → x.stage = .waiting n → x.glance = .mail →
    x.mail = some (.ok r) →
    ∃ f ∈ ((after patience (events ++ [(t, .wake expired)])).lane t).finished,
      f.ticket = x.ticket ∧ f.outcome = Reply.conclusion x.request.command r
  /-- One that came behind that look is lost only to the time or to the end of the connection. -/
  belated : ∀ w r glance, (w, .reply r glance) ∈ settled t (fresh patience) events →
    (∃ tx ∈ lane.sent, tx.ticket = w.ticket ∧ tx.connection = w.connection) →
    ∃ q, q.id = w.id ∧ (Answered lane w glance q r ∨ lane.CutShort w.ticket)
  /-- A frame that cannot be read fails the request that awaits a response on its connection. -/
  stray : ∀ x n payload error, lane.exchange = some x → (n, x.request.id) ∈ lane.filed →
    lane.connections[n]?.map (·.reader) = some .reading →
    Frame.decode Response.read payload = .error error →
    let next := (after patience (events ++ [(t, .received n payload)])).lane t
    next.filed = [] ∧ next.exchange = some
      { x with mail := some (.error (.protocolMismatch ("undecodable reply: " ++ error.message))) }
  /-- A call that waits in vain or for a response that cannot be read leaves its connection to the
  next one. -/
  vain : ∀ x n c expired, lane.Kept n c → lane.exchange = some x → x.stage = .waiting n →
    x.request.command ≠ .halt →
    (x.glance = .clock ∧ expired = true ∨
      x.glance = .mail ∧ ∃ text, x.mail = some (.error (.protocolMismatch text))) →
    let next := (after patience (events ++ [(t, .wake expired)])).lane t
    next.exchange = none ∧ next.filed = [] ∧ ∃ d, next.Kept n d
  undecodable : ∀ n c payload, lane.Kept n c →
    ∃ d, ((after patience (events ++ [(t, .received n payload)])).lane t).Kept n d
  /-- The next one is served over it. -/
  serves : ∀ n k c command timeout endpoint rest frame payload r expired, lane.Kept n c →
    lane.exchange = none → lane.queue = (k, .send command timeout) :: rest → command ≠ .halt →
    lane.standing.endpoint? = some endpoint →
    Frame.encode (Request.json ⟨(after patience events).nextId, endpoint.host, endpoint.port,
      command⟩) = .ok frame →
    Frame.decode Response.read payload = .ok r → r.id = (after patience events).nextId →
    let next := (after patience (events ++ (serving n payload expired).map (t, ·))).lane t
    (∃ d, next.Kept n d) ∧ next.exchange = none ∧
      ⟨k, .send command timeout, Reply.outcome command r⟩ ∈ next.finished

/-- Whatever callers, agents and the network do, as long as no call is dropped: a target has one
request down at most, every request that is put down is settled once and then gone, and a response
that is there when its caller looks for it is what the call comes to. -/
theorem requests_settled_once (patience : Duration) (t : Target) (events : History)
    (kept : ∀ k, (t, .abandoned k) ∉ events) :
    SettledOnce patience t events ((after patience events).lane t) := by
  have pending : ∀ events : History, (∀ k, (t, .abandoned k) ∉ events) →
      ((after patience events).lane t).filed =
        ((after patience events).lane t).awaiting.map fun w => (w.connection, w.id) :=
    fun events kept => (filed patience t events kept).filed_eq (listed patience t events)
  have down := pending events kept
  constructor
  case single =>
    rw [down, List.length_map]
    exact Lane.awaiting_length_le _
  case down => exact down
  case cleared =>
    intro idle
    rw [down, Lane.awaiting_eq_nil idle]
    rfl
  case distinct => exact registered_nodup patience t events
  case once => exact registered_eq patience t events kept
  case unknown =>
    intro n payload r decoded unknown
    rw [after_here]
    exact Lane.received_unknown decoded unknown
  case own =>
    intro w r glance mem
    obtain ⟨q, place, number, responds, _⟩ := settled_reply mem
    exact responds.id.trans number
  case returned =>
    intro w r mem out
    obtain ⟨q, number, answered | ⟨late, -⟩⟩ := settled_answered mem (kept w.ticket) out
    · exact ⟨q, number, answered⟩
    · exact absurd rfl late
  case belated =>
    intro w r glance mem out
    obtain ⟨q, number, answered⟩ := settled_answered mem (kept w.ticket) out
    exact ⟨q, number, answered.imp_right And.right⟩
  case counts =>
    intro x n r expired held stage glance mail
    rw [after_here]
    exact Lane.step_wake held stage glance mail
  case stray =>
    intro x n payload error held mem reading decoded next
    have told : next.exchange = some
        { x with
          mail := some (.error (.protocolMismatch ("undecodable reply: " ++ error.message))) } := by
      show ((after patience (events ++ [(t, .received n payload)])).lane t).exchange = _
      rw [down] at mem
      rw [after_here]
      exact Lane.received_stray (listed patience t events) held mem reading decoded
    refine ⟨?_, told⟩
    show next.filed = []
    rw [pending _ (kept_concat (e := .received n payload) kept fun _ => nofun),
      Lane.awaiting_some told, Lane.filing?_mailed rfl]
    rfl
  case vain =>
    intro x n c expired keeps held stage going vain next
    have there := (after_here patience t events (.wake expired)).symm
    obtain ⟨free, kept'⟩ := keeps.wake there held stage going vain
    refine ⟨free, ?_, kept'⟩
    show next.filed = []
    rw [pending _ (kept_concat (e := .wake expired) kept fun _ => nofun), Lane.awaiting_none free]
    rfl
  case undecodable =>
    intro n c payload keeps
    exact keeps.received (after_here patience t events (.received n payload)).symm
  case serves =>
    intro n k c command timeout endpoint rest frame payload r expired keeps free first going known
      fits decoded own
    exact kept_serves keeps free first going known fits decoded own expired

/-- What happens once a request is about to be written. -/
def underway (command : Command) (rest : List LaneEvent) : History :=
  (.call (.attach ⟨"localhost", 6712⟩) :: .grant :: .call (.send command (.ofSecs 15)) :: .grant ::
    .choose :: .dialed .connected :: .enter :: .register :: rest).map (Target.process 7, ·)

/-- A listing that is answered too late, and one behind it. -/
def lateListing : History :=
  underway .listClasses [.wrote .written, .wake true, .wake true,
    .call (.send .listClasses (.ofSecs 15))]

def nothingLoaded (id : RequestId) : Response :=
  { id, action := .listClasses, status := .ok, classes := some [] }

theorem requests_settled_once_late :
    (∀ k, (Target.process 7, .abandoned k) ∉ lateListing) ∧
      registered (.process 7) (fresh (.ofSecs 5)) lateListing = [⟨1, 0, 1⟩] ∧
      settled (.process 7) (fresh (.ofSecs 5)) lateListing = [(⟨1, 0, 1⟩, .timeout)] ∧
      ((after (.ofSecs 5) lateListing).lane (.process 7)).filed = [] ∧
      (⟨2, .send .listClasses (.ofSecs 15), .answered (.classes [])⟩ : Finished) ∈
        ((after (.ofSecs 5)
          (lateListing ++ (serving 0 (Frame.payloadOf (nothingLoaded 2).json) true).map
            (Target.process 7, ·))).lane (.process 7)).finished := by
  have kept : ∀ k, (Target.process 7, .abandoned k) ∉ lateListing := by
    intro k mem
    simp [lateListing, underway] at mem
  have sound := requests_settled_once (.ofSecs 5) (.process 7) lateListing kept
  have free : ((after (.ofSecs 5) lateListing).lane (.process 7)).exchange = none :=
    Option.isNone_iff_eq_none.mp (by decide +kernel)
  have keeps : ((after (.ofSecs 5) lateListing).lane (.process 7)).Kept 0
      ⟨⟨"localhost", 6712⟩, false, [], .reading⟩ :=
    ⟨by decide +kernel, by decide +kernel, rfl, rfl⟩
  refine ⟨kept, by decide +kernel, by decide +kernel, sound.cleared ?_, ?_⟩
  · intro x n held
    rw [free] at held
    cases held
  · have served := sound.serves 0 2 _ .listClasses (.ofSecs 15) ⟨"localhost", 6712⟩ [] _
      (Frame.payloadOf (nothingLoaded 2).json) (nothingLoaded 2) true keeps free (by decide +kernel)
      nofun (by decide +kernel) rfl (by decide +kernel) (by decide +kernel)
    exact served.2.2

/-- The listing is answered with a frame that is no response, under a number that nobody knows. -/
def strayFrame : History :=
  underway .listClasses [.wrote .written,
    .received 0 (Utf8.ofString "\x7b\"id\":999,\"action\":\"list_classes\"\x7d"), .wake false]

/-- The answer comes in between the look of the caller for it and its look at the connection, which
the agent closes. -/
def answerBehind : History :=
  underway .listClasses [.wrote .written, .wake false,
    .received 0 (Frame.payloadOf (nothingLoaded 1).json), .wake false, .ended 0 .closedByAgent,
    .wake false]

/-- The answer comes in before the frame that it answers turns out not to leave. -/
def answerAhead : History :=
  underway .listClasses [.received 0 (Frame.payloadOf (nothingLoaded 1).json),
    .ended 0 .closedByAgent, .wrote (.failed "Broken pipe")]

/-- A halt that is not answered. -/
def haltUnanswered : History :=
  underway .halt [.wrote .written, .wake true, .wake true]

/-- What does not come to an answer: a request whose connection has got a frame that cannot be read,
one whose answer came behind its caller's look or ahead of a failed write, and the next one behind a
halt. -/
theorem answers_missed :
    (settled (.process 7) (fresh (.ofSecs 5)) strayFrame = [(⟨1, 0, 1⟩, .undecodable)] ∧
      ((after (.ofSecs 5) strayFrame).lane (.process 7)).filed = []) ∧
    (settled (.process 7) (fresh (.ofSecs 5)) answerBehind =
        [(⟨1, 0, 1⟩, .reply (nothingLoaded 1) .clock)] ∧
      (⟨1, .send .listClasses (.ofSecs 15), .failed .connectionClosed⟩ : Finished) ∈
        ((after (.ofSecs 5) answerBehind).lane (.process 7)).finished) ∧
    (settled (.process 7) (fresh (.ofSecs 5)) answerAhead =
        [(⟨1, 0, 1⟩, .reply (nothingLoaded 1) .mail)] ∧
      (⟨1, .send .listClasses (.ofSecs 15), .failed (.io "Broken pipe")⟩ : Finished) ∈
        ((after (.ofSecs 5) answerAhead).lane (.process 7)).finished) ∧
    (settled (.process 7) (fresh (.ofSecs 5)) haltUnanswered = [(⟨1, 0, 1⟩, .timeout)] ∧
      ((after (.ofSecs 5) haltUnanswered).lane (.process 7)).slot = none ∧
      ((after (.ofSecs 5) haltUnanswered).lane (.process 7)).isOpen 0 = false) := by
  decide +kernel

end Channel

end ClassSwap
